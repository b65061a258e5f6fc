import Mathlib
import OpenVizsla.Foundation.CallRules
import OpenVizsla.Device.Bit

/-!
# The format of bitstream files

The format of a `.bit` file as a grammar, and the parser against it.  The
parser accepts what the grammar describes and nothing else, and it does not
look beyond the end of its input on the way.
-/

namespace OpenVizsla.Device.BitGrammar

open OpenVizsla.Foundation.Calls
open OpenVizsla.Device.State
open OpenVizsla.Device.Bit

/-! ## The grammar -/

/-- What follows the key of a field: two bytes with a length, and the body. -/
structure Field where
  length : List UInt8
  body : List UInt8
  length_length : length.length = 2
  bigEndian_length : bigEndian length = body.length

def Field.encode (key : UInt8) (field : Field) : List UInt8 :=
  key :: (field.length ++ field.body)

/--
The parts of a file.  The last field announces how many bytes the bitstream
has; at least as many follow.
-/
structure BitFile where
  ncdFilename : Field
  partName : Field
  date : Field
  time : Field
  length : List UInt8
  rest : List UInt8
  length_length : length.length = 4
  bigEndian_length : bigEndian length ≤ rest.length

namespace BitFile

def field7 (file : BitFile) : List UInt8 :=
  0x65 :: (file.length ++ file.rest)

def field6 (file : BitFile) : List UInt8 :=
  file.time.encode 0x64 ++ file.field7

def field5 (file : BitFile) : List UInt8 :=
  file.date.encode 0x63 ++ file.field6

def field4 (file : BitFile) : List UInt8 :=
  file.partName.encode 0x62 ++ file.field5

def field23 (file : BitFile) : List UInt8 :=
  file.ncdFilename.encode 0x61 ++ file.field4

/-- The bytes of a file. -/
def encode (file : BitFile) : List UInt8 :=
  header ++ file.field23

/-- The bytes of the bitstream that the file announces. -/
def bitLength (file : BitFile) : Nat :=
  bigEndian file.length

/-! Where the bodies of the fields start: behind a key and a length. -/

def ncdFilenameAt (_ : BitFile) : Nat :=
  header.length + 3

def partNameAt (file : BitFile) : Nat :=
  file.ncdFilenameAt + file.ncdFilename.body.length + 3

def dateAt (file : BitFile) : Nat :=
  file.partNameAt + file.partName.body.length + 3

def timeAt (file : BitFile) : Nat :=
  file.dateAt + file.date.body.length + 3

def dataAt (file : BitFile) : Nat :=
  file.timeAt + file.time.body.length + 5

/-- The structure that `bit_init` fills in. -/
def parsed (file : BitFile) (bit : State.Bit) : State.Bit :=
  { bit with
    buffer := file.encode
    data := file.dataAt
    size := file.rest.length
    ncdFilename := file.ncdFilenameAt
    partName := file.partNameAt
    date := file.dateAt
    time := file.timeAt
    bitLength := file.bitLength }

end BitFile

/-! ## What is left of the input -/

/-- The input from `bit->data` on. -/
structure Rests (bit : State.Bit) (rest : List UInt8) : Prop where
  drop_data : bit.buffer.drop bit.data = rest
  size : bit.size = rest.length

section Rests

variable {bit : State.Bit} {rest : List UInt8}

theorem Rests.bytes (rests : Rests bit rest) (count : Nat) :
    Bit.bytes bit count = rest.take count := by
  rw [Bit.bytes, rests.drop_data]

theorem Rests.advance (rests : Rests bit rest) (count : Nat) :
    Rests (Bit.advance bit count) (rest.drop count) where
  drop_data := by
    show bit.buffer.drop (bit.data + count) = _
    rw [← List.drop_drop, rests.drop_data]
  size := by
    show bit.size - count = _
    rw [rests.size, List.length_drop]

end Rests

/-- Storing a pointer does not move `bit->data`. -/
structure Stores (store : State.Bit → State.Bit) : Prop where
  buffer : ∀ bit, (store bit).buffer = bit.buffer
  data : ∀ bit, (store bit).data = bit.data
  size : ∀ bit, (store bit).size = bit.size

theorem Rests.store {store : State.Bit → State.Bit} (stores : Stores store)
    {bit : State.Bit} {rest : List UInt8} (rests : Rests bit rest) :
    Rests (store bit) rest where
  drop_data := by
    rw [stores.buffer, stores.data]
    exact rests.drop_data
  size := by
    rw [stores.size]
    exact rests.size

/-! ## The fields -/

section Fields

variable {bit next : State.Bit} {rest : List UInt8}

theorem bitDoParseField12_ok_iff (rests : Rests bit rest) :
    bitDoParseField12 bit = .ok next ↔
      ∃ tail, rest = header ++ tail ∧ next = advance bit header.length := by
  rw [bitDoParseField12, rests.bytes, rests.size]
  constructor
  · intro accepted
    split at accepted
    · cases accepted
    · rename_i valid
      rw [not_or, not_not] at valid
      cases accepted
      refine ⟨rest.drop header.length, ?_, rfl⟩
      have split := List.take_append_drop header.length rest
      rw [valid.2] at split
      exact split.symm
  · rintro ⟨tail, rfl, rfl⟩
    rw [if_neg]
    rw [not_or, not_not, List.take_left]
    exact ⟨by simp, rfl⟩

/-- The number of body bytes that a field announces. -/
def announced (rest : List UInt8) : Nat :=
  bigEndian ((rest.drop 1).take 2)

theorem bitDoParseFieldStr_eq_ok (key : UInt8)
    (store : State.Bit → State.Bit) (rests : Rests bit rest) :
    bitDoParseFieldStr key store bit = .ok next ↔
      3 ≤ rest.length ∧ rest.take 1 = [key] ∧
        announced rest ≤ (rest.drop 3).length ∧
        next =
          advance (store (advance (advance bit 1) 2)) (announced rest) := by
  have second : Rests (advance bit 1) (rest.drop 1) := rests.advance 1
  have third : Rests (advance (advance bit 1) 2) (rest.drop 3) := by
    have moved := second.advance 2
    rwa [List.drop_drop] at moved
  simp only [bitDoParseFieldStr, rests.size, rests.bytes, second.bytes,
    third.size, rejected, announced]
  split
  · rename_i short
    simp only [reduceCtorEq, false_iff]
    omega
  · rename_i long
    split
    · rename_i wrong
      simp only [reduceCtorEq, false_iff]
      tauto
    · rename_i keyed
      split
      · rename_i truncated
        simp only [reduceCtorEq, false_iff]
        omega
      · rename_i inside
        rw [Except.ok.injEq, eq_comm]
        have long' := Nat.le_of_not_lt long
        have inside' := Nat.le_of_not_lt inside
        tauto

/-- A field, as its parser looks at it. -/
theorem drop_encode (key : UInt8) (field : Field) (tail : List UInt8) :
    (field.encode key ++ tail).drop 1 =
        field.length ++ (field.body ++ tail) ∧
      (field.encode key ++ tail).drop 3 = field.body ++ tail ∧
      announced (field.encode key ++ tail) = field.body.length := by
  have two := field.length_length
  have first : (field.encode key ++ tail).drop 1 =
      field.length ++ (field.body ++ tail) := by
    simp [Field.encode]
  refine ⟨first, ?_, ?_⟩
  · show ((field.encode key ++ tail).drop 1).drop 2 = _
    rw [first, ← two, List.drop_left]
  · rw [announced, first, ← two, List.take_left, field.bigEndian_length]

/-- What the checks of the parser say about the input. -/
theorem exists_field_iff {key : UInt8} {rest : List UInt8} :
    (3 ≤ rest.length ∧ rest.take 1 = [key] ∧
        announced rest ≤ (rest.drop 3).length) ↔
      ∃ (field : Field) (tail : List UInt8),
        rest = field.encode key ++ tail := by
  constructor
  · rintro ⟨long, keyed, inside⟩
    cases rest with
    | nil => simp at long
    | cons first more =>
        rw [List.take_succ_cons, List.take_zero, List.singleton_inj] at keyed
        subst keyed
        rw [List.length_cons] at long
        refine ⟨⟨more.take 2, (more.drop 2).take (announced (first :: more)),
          ?_, ?_⟩, (more.drop 2).drop (announced (first :: more)), ?_⟩
        · rw [List.length_take]
          omega
        · exact (List.length_take_of_le inside).symm
        · rw [Field.encode, List.cons_append, List.append_assoc,
            List.take_append_drop, List.take_append_drop]
  · rintro ⟨field, tail, rfl⟩
    obtain ⟨-, body, number⟩ := drop_encode key field tail
    have two := field.length_length
    refine ⟨?_, rfl, ?_⟩
    · simp only [Field.encode, List.length_append, List.length_cons]
      omega
    · rw [number, body, List.length_append]
      exact Nat.le_add_right _ _

/-- The pointer is stored before the body is passed over. -/
def afterField (store : State.Bit → State.Bit) (field : Field)
    (bit : State.Bit) : State.Bit :=
  advance (store (advance (advance bit 1) 2)) field.body.length

theorem rests_afterField {store : State.Bit → State.Bit} {key : UInt8}
    {field : Field} {tail : List UInt8} (stores : Stores store)
    (rests : Rests bit (field.encode key ++ tail)) :
    Rests (afterField store field bit) tail := by
  have moved := ((rests.advance 1).advance 2).store stores
  rw [List.drop_drop, (drop_encode key field tail).2.1] at moved
  have passed := moved.advance field.body.length
  rwa [List.drop_left] at passed

/-- The parser of a field accepts the fields. -/
theorem bitDoParseFieldStr_ok_iff (key : UInt8)
    (store : State.Bit → State.Bit) (rests : Rests bit rest) :
    bitDoParseFieldStr key store bit = .ok next ↔
      ∃ (field : Field) (tail : List UInt8),
        rest = field.encode key ++ tail ∧
          next = afterField store field bit := by
  rw [bitDoParseFieldStr_eq_ok key store rests]
  constructor
  · rintro ⟨long, keyed, inside, rfl⟩
    obtain ⟨field, tail, rfl⟩ := exists_field_iff.mp ⟨long, keyed, inside⟩
    refine ⟨field, tail, rfl, ?_⟩
    rw [(drop_encode key field tail).2.2]
    rfl
  · rintro ⟨field, tail, rfl, rfl⟩
    obtain ⟨long, keyed, inside⟩ := exists_field_iff.mpr ⟨field, tail, rfl⟩
    refine ⟨long, keyed, inside, ?_⟩
    rw [(drop_encode key field tail).2.2]
    rfl

/-- The parser of the last field accepts the announcement of the bitstream. -/
theorem bitDoParseField7_ok_iff (rests : Rests bit rest) :
    bitDoParseField7 bit = .ok next ↔
      ∃ length tail : List UInt8,
        length.length = 4 ∧ bigEndian length ≤ tail.length ∧
          rest = 0x65 :: (length ++ tail) ∧
          next =
            advance { advance bit 1 with bitLength := bigEndian length }
              4 := by
  have second : Rests (advance bit 1) (rest.drop 1) := rests.advance 1
  have fifth : (advance
      { advance bit 1 with bitLength := bigEndian ((rest.drop 1).take 4) }
        4).size = (rest.drop 5).length := by
    have moved := (second.advance 4).size
    rwa [List.drop_drop] at moved
  simp only [bitDoParseField7, rests.size, rests.bytes, second.bytes, fifth,
    rejected]
  constructor
  · intro accepted
    split at accepted
    · cases accepted
    · rename_i long
      split at accepted
      · cases accepted
      · rename_i keyed
        split at accepted
        · cases accepted
        · rename_i inside
          cases accepted
          rw [not_not] at keyed
          cases rest with
          | nil => cases keyed
          | cons first more =>
              rw [List.take_succ_cons, List.take_zero, List.singleton_inj]
                at keyed
              subst keyed
              rw [List.length_cons] at long
              refine ⟨more.take 4, more.drop 4, ?_, ?_, ?_, rfl⟩
              · rw [List.length_take]
                omega
              · exact Nat.le_of_not_lt inside
              · rw [List.take_append_drop]
  · rintro ⟨length, tail, four, inside, rfl, rfl⟩
    have number : ((0x65 :: (length ++ tail)).drop 1).take 4 = length := by
      rw [List.drop_one, List.tail_cons, ← four, List.take_left]
    have behind : (0x65 :: (length ++ tail)).drop 5 = tail := by
      rw [List.drop_succ_cons, ← four, List.drop_left]
    rw [if_neg, if_neg, if_neg, number]
    · rw [number, behind]
      exact Nat.not_lt.mpr inside
    · exact not_not.mpr rfl
    · simp only [List.length_cons, List.length_append]
      omega

end Fields

/-! ## The parser -/

/-- `*str = bit->data`, for each of the fields. -/
def storeNcdFilename (bit : State.Bit) : State.Bit :=
  { bit with ncdFilename := bit.data }

def storePartName (bit : State.Bit) : State.Bit :=
  { bit with partName := bit.data }

def storeDate (bit : State.Bit) : State.Bit :=
  { bit with date := bit.data }

def storeTime (bit : State.Bit) : State.Bit :=
  { bit with time := bit.data }

theorem stores_ncdFilename : Stores storeNcdFilename :=
  ⟨fun _ => rfl, fun _ => rfl, fun _ => rfl⟩

theorem stores_partName : Stores storePartName :=
  ⟨fun _ => rfl, fun _ => rfl, fun _ => rfl⟩

theorem stores_date : Stores storeDate :=
  ⟨fun _ => rfl, fun _ => rfl, fun _ => rfl⟩

theorem stores_time : Stores storeTime :=
  ⟨fun _ => rfl, fun _ => rfl, fun _ => rfl⟩

theorem stores_bitLength (length : Nat) :
    Stores fun bit => { bit with bitLength := length } :=
  ⟨fun _ => rfl, fun _ => rfl, fun _ => rfl⟩

theorem bind_eq_ok_iff {ε α β : Type} {first : Except ε α}
    {next : α → Except ε β} {value : β} :
    (first >>= next) = .ok value ↔
      ∃ middle, first = .ok middle ∧ next middle = .ok value := by
  cases first with
  | error failed =>
      constructor
      · intro accepted
        cases accepted
      · rintro ⟨middle, accepted, -⟩
        cases accepted
  | ok middle =>
      constructor
      · exact fun accepted => ⟨middle, rfl, accepted⟩
      · rintro ⟨other, same, accepted⟩
        cases same
        exact accepted

/-- The input of the parser. -/
def atStart (bit : State.Bit) (data : List UInt8) : State.Bit :=
  { bit with buffer := data, data := 0, size := data.length }

theorem rests_atStart (bit : State.Bit) (data : List UInt8) :
    Rests (atStart bit data) data :=
  ⟨rfl, rfl⟩

/-- Where the parser is after the fields with a body. -/
def afterField6 (file : BitFile) (bit : State.Bit) : State.Bit :=
  let bit := advance bit header.length
  let bit := afterField storeNcdFilename file.ncdFilename bit
  let bit := afterField storePartName file.partName bit
  let bit := afterField storeDate file.date bit
  afterField storeTime file.time bit

/-- Where the parser is at the end. -/
def afterField7 (file : BitFile) (bit : State.Bit) : State.Bit :=
  let bit := advance (afterField6 file bit) 1
  advance { bit with bitLength := file.bitLength } 4

theorem afterField7_size (file : BitFile) (bit : State.Bit) :
    (afterField7 file bit).size =
      (advance (advance (afterField6 file bit) 1) 4).size := by
  unfold afterField7 advance
  rfl

theorem afterField7_atStart (file : BitFile) (bit : State.Bit) :
    afterField7 file (atStart bit file.encode) = file.parsed bit := by
  have rests := (rests_atStart bit file.encode).advance header.length
  rw [BitFile.encode, List.drop_left] at rests
  have rests4 := rests_afterField stores_ncdFilename rests
  have rests5 := rests_afterField stores_partName rests4
  have rests6 := rests_afterField stores_date rests5
  have rests7 : Rests (afterField6 file (atStart bit file.encode))
      file.field7 :=
    rests_afterField stores_time rests6
  have behind : (file.field7.drop 1).drop 4 = file.rest := by
    rw [BitFile.field7, List.drop_one, List.tail_cons, ← file.length_length,
      List.drop_left]
  have last := ((rests7.advance 1).advance 4).size
  rw [behind] at last
  have size : (afterField7 file (atStart bit file.encode)).size =
      file.rest.length := by
    rw [afterField7_size]
    exact last
  have same : afterField7 file (atStart bit file.encode) =
      { file.parsed bit with
        size := (afterField7 file (atStart bit file.encode)).size } := rfl
  rw [same, size]
  rfl

/-- The parser accepts the files of the grammar. -/
theorem bitDoParse_ok_iff {bit next : State.Bit} {data : List UInt8} :
    bitDoParse (atStart bit data) = .ok next ↔
      ∃ file : BitFile, data = file.encode ∧ next = file.parsed bit := by
  have rests := rests_atStart bit data
  simp only [bitDoParse, bind_eq_ok_iff]
  constructor
  · rintro ⟨bit12, accepted12, bit23, accepted23, bit4, accepted4, bit5,
      accepted5, bit6, accepted6, accepted7⟩
    obtain ⟨tail12, rfl, rfl⟩ :=
      (bitDoParseField12_ok_iff rests).mp accepted12
    have rests12 := rests.advance header.length
    rw [List.drop_left] at rests12
    obtain ⟨ncdFilename, tail23, rfl, rfl⟩ :=
      (bitDoParseFieldStr_ok_iff 0x61 storeNcdFilename rests12).mp accepted23
    have rests23 := rests_afterField stores_ncdFilename rests12
    obtain ⟨partName, tail4, rfl, rfl⟩ :=
      (bitDoParseFieldStr_ok_iff 0x62 storePartName rests23).mp accepted4
    have rests4 := rests_afterField stores_partName rests23
    obtain ⟨date, tail5, rfl, rfl⟩ :=
      (bitDoParseFieldStr_ok_iff 0x63 storeDate rests4).mp accepted5
    have rests5 := rests_afterField stores_date rests4
    obtain ⟨time, tail6, rfl, rfl⟩ :=
      (bitDoParseFieldStr_ok_iff 0x64 storeTime rests5).mp accepted6
    have rests6 := rests_afterField stores_time rests5
    obtain ⟨length, tail7, four, inside, rfl, rfl⟩ :=
      (bitDoParseField7_ok_iff rests6).mp accepted7
    refine ⟨⟨ncdFilename, partName, date, time, length, tail7, four,
      inside⟩, rfl, ?_⟩
    rw [← afterField7_atStart]
    rfl
  · rintro ⟨file, rfl, rfl⟩
    have rests12 := rests.advance header.length
    rw [BitFile.encode, List.drop_left] at rests12
    have rests23 := rests_afterField stores_ncdFilename rests12
    have rests4 := rests_afterField stores_partName rests23
    have rests5 := rests_afterField stores_date rests4
    have rests6 := rests_afterField stores_time rests5
    rw [← afterField7_atStart]
    refine ⟨_, (bitDoParseField12_ok_iff rests).mpr ⟨_, rfl, rfl⟩,
      _, (bitDoParseFieldStr_ok_iff 0x61 storeNcdFilename rests12).mpr
        ⟨_, _, rfl, rfl⟩,
      _, (bitDoParseFieldStr_ok_iff 0x62 storePartName rests23).mpr
        ⟨_, _, rfl, rfl⟩,
      _, (bitDoParseFieldStr_ok_iff 0x63 storeDate rests4).mpr
        ⟨_, _, rfl, rfl⟩,
      _, (bitDoParseFieldStr_ok_iff 0x64 storeTime rests5).mpr
        ⟨_, _, rfl, rfl⟩,
      (bitDoParseField7_ok_iff rests6).mpr ⟨file.length, file.rest,
        file.length_length, file.bigEndian_length, rfl, rfl⟩⟩

/-! ## Where the pointers point -/

/-- The structure describes the file. -/
structure Describes (file : BitFile) (bit : State.Bit) : Prop where
  buffer : bit.buffer = file.encode
  ncdFilename :
    bit.buffer.drop bit.ncdFilename = file.ncdFilename.body ++ file.field4
  partName :
    bit.buffer.drop bit.partName = file.partName.body ++ file.field5
  date : bit.buffer.drop bit.date = file.date.body ++ file.field6
  time : bit.buffer.drop bit.time = file.time.body ++ file.field7
  bitLength : bit.bitLength = bigEndian file.length
  rest : bit.buffer.drop bit.data = file.rest
  size : bit.data + bit.size = bit.buffer.length

/-- The pointer that is stored points to the body of the field. -/
theorem drop_stored {bit : State.Bit} {key : UInt8} {field : Field}
    {tail : List UInt8} (rests : Rests bit (field.encode key ++ tail)) :
    bit.buffer.drop (bit.data + 3) = field.body ++ tail := by
  rw [← List.drop_drop, rests.drop_data]
  exact (drop_encode key field tail).2.1

theorem describes_parsed (file : BitFile) (bit : State.Bit) :
    Describes file (file.parsed bit) := by
  have rests := (rests_atStart bit file.encode).advance header.length
  have split : file.encode.drop header.length = file.field23 := by
    rw [BitFile.encode, List.drop_left]
  rw [split] at rests
  have rests4 := rests_afterField stores_ncdFilename rests
  have rests5 := rests_afterField stores_partName rests4
  have rests6 := rests_afterField stores_date rests5
  have rests7 := rests_afterField stores_time rests6
  have last : file.encode.drop file.dataAt = file.rest := by
    have moved := ((rests7.advance 1).advance 4).drop_data
    rw [BitFile.field7, List.drop_one, List.tail_cons, ← file.length_length,
      List.drop_left, file.length_length] at moved
    exact moved
  constructor
  · rfl
  · exact drop_stored rests
  · exact drop_stored rests4
  · exact drop_stored rests5
  · exact drop_stored rests6
  · rfl
  · exact last
  · have one := file.ncdFilename.length_length
    have two := file.partName.length_length
    have three := file.date.length_length
    have four := file.time.length_length
    have five := file.length_length
    simp only [BitFile.parsed, BitFile.dataAt, BitFile.timeAt,
      BitFile.dateAt, BitFile.partNameAt, BitFile.ncdFilenameAt,
      BitFile.encode, BitFile.field23, BitFile.field4, BitFile.field5,
      BitFile.field6, BitFile.field7, Field.encode, List.length_append,
      List.length_cons]
    omega

/-! ## The bounds of the accesses -/

/-- Read from `bit->data`; `none` if a byte is beyond the end of the input. -/
def readBytes (bit : State.Bit) (count : Nat) : Option (List UInt8) :=
  if bit.data + count ≤ bit.buffer.length then some (bytes bit count)
  else none

/-- `none` if the subtraction from `bit->size` wraps around. -/
def moveOn (bit : State.Bit) (count : Nat) : Option State.Bit :=
  if count ≤ bit.size then some (advance bit count) else none

/-- The parsers, in which every read and every subtraction is checked. -/
abbrev Checked : Type := Option (Except State.Bit State.Bit)

def checkedField12 (bit : State.Bit) : Checked :=
  if bit.size < header.length then
    some (rejected bit "Wrong bitstream header")
  else do
    let first ← readBytes bit header.length
    if first ≠ header then
      some (rejected bit "Wrong bitstream header")
    else do
      let bit ← moveOn bit header.length
      some (.ok bit)

def checkedFieldStr (key : UInt8) (store : State.Bit → State.Bit)
    (bit : State.Bit) : Checked :=
  if bit.size < 3 then
    some (rejected bit "Too few bytes")
  else do
    let first ← readBytes bit 1
    if first ≠ [key] then
      some (rejected bit "Incorrent field key")
    else do
      let bit ← moveOn bit 1
      let length ← readBytes bit 2
      let bit ← moveOn bit 2
      if bit.size < bigEndian length then
        some (rejected bit "Too few bytes")
      else do
        let bit ← moveOn (store bit) (bigEndian length)
        some (.ok bit)

def checkedField7 (bit : State.Bit) : Checked :=
  if bit.size < 5 then
    some (rejected bit "Too few bytes")
  else do
    let first ← readBytes bit 1
    if first ≠ [0x65] then
      some (rejected bit "Incorrent field key")
    else do
      let bit ← moveOn bit 1
      let length ← readBytes bit 4
      let bit ← moveOn { bit with bitLength := bigEndian length } 4
      if bit.size < bigEndian length then
        some (rejected bit "Too few bytes")
      else
        some (.ok bit)

/-- The next parser starts where the one before has accepted. -/
def Checked.andThen (first : Checked) (next : State.Bit → Checked) :
    Checked := do
  match ← first with
  | .error failed => some (.error failed)
  | .ok bit => next bit

def checkedParse (bit : State.Bit) : Checked :=
  (checkedField12 bit).andThen fun bit =>
  (checkedFieldStr 0x61 storeNcdFilename bit).andThen fun bit =>
  (checkedFieldStr 0x62 storePartName bit).andThen fun bit =>
  (checkedFieldStr 0x63 storeDate bit).andThen fun bit =>
  (checkedFieldStr 0x64 storeTime bit).andThen checkedField7

section Checked

variable {bit : State.Bit} {rest : List UInt8}

theorem readBytes_eq (rests : Rests bit rest) {count : Nat}
    (positive : 0 < count) (inside : count ≤ rest.length) :
    readBytes bit count = some (rest.take count) := by
  have length := congrArg List.length rests.drop_data
  rw [List.length_drop] at length
  rw [readBytes, if_pos (by omega), rests.bytes]

theorem moveOn_eq (rests : Rests bit rest) {count : Nat}
    (inside : count ≤ rest.length) :
    moveOn bit count = some (advance bit count) := by
  rw [moveOn, if_pos]
  rw [rests.size]
  exact inside

theorem checkedField12_eq (rests : Rests bit rest) :
    checkedField12 bit = some (bitDoParseField12 bit) := by
  rw [checkedField12, bitDoParseField12, rests.bytes, rests.size]
  by_cases short : rest.length < header.length
  · rw [if_pos short, if_pos (.inl short)]
  · have long := Nat.le_of_not_lt short
    rw [if_neg short, readBytes_eq rests (by decide) long,
      moveOn_eq rests long, Option.bind_eq_bind, Option.bind_some]
    by_cases same : rest.take header.length = header
    · rw [if_neg (not_not.mpr same), if_neg]
      · rfl
      · tauto
    · rw [if_pos same, if_pos (.inr same)]

theorem checkedFieldStr_eq (key : UInt8) {store : State.Bit → State.Bit}
    (stores : Stores store) (rests : Rests bit rest) :
    checkedFieldStr key store bit =
      some (bitDoParseFieldStr key store bit) := by
  have second : Rests (advance bit 1) (rest.drop 1) := rests.advance 1
  have third : Rests (advance (advance bit 1) 2) ((rest.drop 1).drop 2) :=
    second.advance 2
  simp only [checkedFieldStr, bitDoParseFieldStr, rests.size, rests.bytes,
    second.bytes]
  split
  · rfl
  · rename_i long
    have long' := Nat.le_of_not_lt long
    have one : 1 ≤ rest.length := by omega
    have two : 2 ≤ (rest.drop 1).length := by
      rw [List.length_drop]
      omega
    rw [readBytes_eq rests Nat.one_pos one, moveOn_eq rests one]
    simp only [Option.bind_eq_bind, Option.bind_some,
      readBytes_eq second Nat.two_pos two, moveOn_eq second two, third.size]
    split
    · rfl
    · split
      · rfl
      · rename_i inside
        rw [moveOn_eq (third.store stores) (Nat.le_of_not_lt inside)]
        rfl

theorem checkedField7_eq (rests : Rests bit rest) :
    checkedField7 bit = some (bitDoParseField7 bit) := by
  have second : Rests (advance bit 1) (rest.drop 1) := rests.advance 1
  simp only [checkedField7, bitDoParseField7, rests.size, rests.bytes,
    second.bytes]
  split
  · rfl
  · rename_i long
    have long' := Nat.le_of_not_lt long
    have one : 1 ≤ rest.length := by omega
    have four : 4 ≤ (rest.drop 1).length := by
      rw [List.length_drop]
      omega
    have moved (length : Nat) :
        moveOn { advance bit 1 with bitLength := length } 4 =
          some (advance { advance bit 1 with bitLength := length } 4) :=
      moveOn_eq (second.store (stores_bitLength length)) four
    rw [readBytes_eq rests Nat.one_pos one, moveOn_eq rests one]
    simp only [Option.bind_eq_bind, Option.bind_some,
      readBytes_eq second (by decide) four, moved]
    split
    · rfl
    · split <;> rfl

theorem Checked.andThen_eq {first : Checked}
    {plain : Except State.Bit State.Bit} (same : first = some plain)
    {next : State.Bit → Checked}
    {plainNext : State.Bit → Except State.Bit State.Bit}
    (following : ∀ bit, plain = .ok bit → next bit = some (plainNext bit)) :
    first.andThen next = some (plain >>= plainNext) := by
  rw [same]
  cases plain with
  | error failed => rfl
  | ok bit => exact following bit rfl

/-- No access is out of bounds, whether the input is accepted or not. -/
theorem checkedParse_eq (rests : Rests bit rest) :
    checkedParse bit = some (bitDoParse bit) := by
  apply Checked.andThen_eq (checkedField12_eq rests)
  intro bit12 accepted12
  obtain ⟨tail12, rfl, rfl⟩ :=
    (bitDoParseField12_ok_iff rests).mp accepted12
  have rests12 := rests.advance header.length
  rw [List.drop_left] at rests12
  apply Checked.andThen_eq (checkedFieldStr_eq 0x61 stores_ncdFilename rests12)
  intro bit23 accepted23
  obtain ⟨ncdFilename, tail23, rfl, rfl⟩ :=
    (bitDoParseFieldStr_ok_iff 0x61 storeNcdFilename rests12).mp accepted23
  have rests23 := rests_afterField stores_ncdFilename rests12
  apply Checked.andThen_eq (checkedFieldStr_eq 0x62 stores_partName rests23)
  intro bit4 accepted4
  obtain ⟨partName, tail4, rfl, rfl⟩ :=
    (bitDoParseFieldStr_ok_iff 0x62 storePartName rests23).mp accepted4
  have rests4 := rests_afterField stores_partName rests23
  apply Checked.andThen_eq (checkedFieldStr_eq 0x63 stores_date rests4)
  intro bit5 accepted5
  obtain ⟨date, tail5, rfl, rfl⟩ :=
    (bitDoParseFieldStr_ok_iff 0x63 storeDate rests4).mp accepted5
  have rests5 := rests_afterField stores_date rests4
  apply Checked.andThen_eq (checkedFieldStr_eq 0x64 stores_time rests5)
  intro bit6 accepted6
  obtain ⟨time, tail6, rfl, rfl⟩ :=
    (bitDoParseFieldStr_ok_iff 0x64 storeTime rests5).mp accepted6
  exact checkedField7_eq (rests_afterField stores_time rests5)

end Checked

/-! ## The call -/

theorem bitInit_run_of_ok {data : List UInt8} {memory : Memory}
    {bit : State.Bit} (script : List Answer)
    (accepted : bitDoParse (atStart memory.bit data) = .ok bit) :
    (bitInit data).run memory script =
      { calls := []
        ending := .returned ⟨⟩
        state := { memory with bit := bit }
        rest := script } := by
  rw [atStart] at accepted
  rw [bitInit, Program.run_bind]
  dsimp only [Program.get, Outcome.andThen]
  rw [accepted]
  rfl

theorem bitInit_ending_of_error {data : List UInt8} {memory : Memory}
    {bit : State.Bit} (script : List Answer)
    (rejected : bitDoParse (atStart memory.bit data) = .error bit) :
    ((bitInit data).run memory script).ending = .stopped .failed := by
  rw [atStart] at rejected
  rw [bitInit, Program.run_bind]
  dsimp only [Program.get, Outcome.andThen]
  rw [rejected]
  rfl

/-- The structure that the call leaves behind. -/
theorem bitInit_state (file : BitFile) (memory : Memory)
    (script : List Answer) :
    ((bitInit file.encode).run memory script).state =
      { memory with bit := file.parsed memory.bit } := by
  rw [bitInit_run_of_ok script (bitDoParse_ok_iff.mpr ⟨file, rfl, rfl⟩)]

/--
`bit_init` accepts the files of the grammar and describes them, and it never
looks beyond the end of its input.
-/
theorem bitInit_accepts_iff (data : List UInt8) (memory : Memory)
    (script : List Answer) :
    (((bitInit data).run memory script).ending = .returned ⟨⟩ ↔
        ∃ file : BitFile, data = file.encode) ∧
      (∀ file : BitFile, data = file.encode →
        ((bitInit data).run memory script).state =
            { memory with bit := file.parsed memory.bit } ∧
          Describes file (file.parsed memory.bit)) ∧
      checkedParse (atStart memory.bit data) =
        some (bitDoParse (atStart memory.bit data)) := by
  refine ⟨?_, ?_, checkedParse_eq (rests_atStart memory.bit data)⟩
  · constructor
    · intro accepted
      cases parsed : bitDoParse (atStart memory.bit data) with
      | error failed =>
          rw [bitInit_ending_of_error script parsed] at accepted
          cases accepted
      | ok bit =>
          obtain ⟨file, split, -⟩ := bitDoParse_ok_iff.mp parsed
          exact ⟨file, split⟩
    · rintro ⟨file, split⟩
      rw [bitInit_run_of_ok script
        (bitDoParse_ok_iff.mpr ⟨file, split, rfl⟩)]
  · rintro file rfl
    exact ⟨bitInit_state file memory script,
      describes_parsed file memory.bit⟩

end OpenVizsla.Device.BitGrammar
