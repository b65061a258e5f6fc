import OpenVizsla.Foundation.Updates
import OpenVizsla.Register.Parse

/-!
# The grammar of register maps

What the lines of a map say, as relations between texts, and that `reg_init`
reads exactly this.  A key that is blank or a value that is too large is not
an error of the map but a failed assertion.
-/

namespace OpenVizsla.Register.Grammar

open OpenVizsla.Foundation.Updates
open OpenVizsla.Register.Map
open OpenVizsla.Register.Parse

/-! ## Lines -/

/-- The lines of a map. -/
def mapLines (map : List UInt8) : List (List UInt8) :=
  (cString map).splitOn 0x0a

/-- A line that says nothing. -/
def Comment (line : List UInt8) : Prop :=
  line = [] ∨ line.head? = some 0x23

instance (line : List UInt8) : Decidable (Comment line) :=
  inferInstanceAs (Decidable (_ ∨ _))

/-- A line is cut at its first equals sign. -/
def Cut (line key text : List UInt8) : Prop :=
  line = key ++ 0x3d :: text ∧ 0x3d ∉ key

/-- The first token between blanks. -/
def FirstToken (key token : List UInt8) : Prop :=
  ∃ blanks rest, key = blanks ++ (token ++ rest) ∧
    (∀ byte ∈ blanks, byte = 0x20) ∧ token ≠ [] ∧ 0x20 ∉ token ∧
    ∀ byte ∈ rest.head?, byte = 0x20

/-- The line gives the register this value. -/
def Gives (line : List UInt8) (name : RegName) (value : Nat) : Prop :=
  ¬ Comment line ∧ ∃ entry key text, (entry, name) ∈ regDecode ∧
    Cut line key text ∧ FirstToken key (ascii entry) ∧ value = strtoul text

/-- A line of the grammar. -/
def Formed (line : List UInt8) : Prop :=
  Comment line ∨ 0x3d ∈ line

instance (line : List UInt8) : Decidable (Formed line) :=
  inferInstanceAs (Decidable (_ ∨ _))

/-- What stands on either side of the equals sign fails no assertion. -/
def Usable (line : List UInt8) : Prop :=
  ∀ key text, ¬ Comment line → Cut line key text →
    (∃ byte ∈ key, byte ≠ 0x20) ∧ strtoul text < 0xffff

/-! ## Cutting texts -/

section Cutting

variable {p : UInt8 → Prop} [DecidablePred p]
    {body rest line key text token : List UInt8}

/-- The longest part of a text that has a property. -/
theorem span_eq (inside : ∀ byte ∈ body, p byte)
    (boundary : ∀ byte ∈ rest.head?, ¬ p byte) :
    (body ++ rest).takeWhile p = body ∧ (body ++ rest).dropWhile p = rest := by
  have inside' : ∀ byte ∈ body, decide (p byte) = true :=
    fun byte member => decide_eq_true (inside byte member)
  rw [List.takeWhile_append_of_pos inside',
    List.dropWhile_append_of_pos inside']
  cases rest with
  | nil => simp
  | cons byte rest =>
      have stops := boundary byte rfl
      simp [stops]

theorem of_mem_takeWhile {byte : UInt8} (member : byte ∈ line.takeWhile p) :
    p byte := by
  have holds := List.mem_takeWhile_imp member
  exact of_decide_eq_true holds

theorem not_of_head_dropWhile {byte : UInt8}
    (head : byte ∈ (line.dropWhile p).head?) : ¬ p byte := by
  intro holds
  have stops := List.head?_dropWhile_not p line
  rw [Option.mem_def.mp head] at stops
  simp [holds] at stops

/-- The part of the line before its first equals sign. -/
def keyPart (line : List UInt8) : List UInt8 :=
  line.takeWhile (· ≠ 0x3d)

/-- The part of the line after its first equals sign. -/
def textPart (line : List UInt8) : List UInt8 :=
  (line.dropWhile (· ≠ 0x3d)).tail

theorem cut_parts (equals : 0x3d ∈ line) :
    Cut line (keyPart line) (textPart line) := by
  constructor
  · have whole : keyPart line ++ line.dropWhile (· ≠ 0x3d) = line :=
      List.takeWhile_append_dropWhile
    cases rest : line.dropWhile (· ≠ 0x3d) with
    | nil =>
        have differs := List.dropWhile_eq_nil_iff.mp rest 0x3d equals
        simp at differs
    | cons byte after =>
        have first : byte ∈ (line.dropWhile (· ≠ 0x3d)).head? := by
          rw [rest]
          rfl
        have same := not_not.mp (not_of_head_dropWhile first)
        rw [rest, same] at whole
        rw [textPart, rest]
        exact whole.symm
  · intro member
    exact of_mem_takeWhile member rfl

theorem Cut.unique (cut : Cut line key text) :
    key = keyPart line ∧ text = textPart line := by
  rcases cut with ⟨rfl, before⟩
  have inside : ∀ byte ∈ key, byte ≠ 0x3d := by
    rintro byte member rfl
    exact before member
  have boundary : ∀ byte ∈ (0x3d :: text).head?, ¬ byte ≠ 0x3d := by
    rintro byte ⟨⟩ differs
    exact differs rfl
  have parts := span_eq inside boundary
  constructor
  · exact parts.1.symm
  · rw [textPart, parts.2]
    rfl

theorem Cut.mem (cut : Cut line key text) : 0x3d ∈ line := by
  rw [cut.1]
  simp

/-- `strtok` finds the first token. -/
theorem strtok_eq_some_iff :
    strtok key = some token ↔ FirstToken key token := by
  unfold strtok
  constructor
  · intro found
    dsimp only at found
    split at found
    · cases found
    · rename_i nonempty
      cases found
      refine ⟨key.takeWhile (· = 0x20),
        (key.dropWhile (· = 0x20)).dropWhile (· ≠ 0x20), ?_,
        fun byte member => ?_, nonempty, ?_, ?_⟩
      · rw [List.takeWhile_append_dropWhile,
          List.takeWhile_append_dropWhile]
      · exact of_mem_takeWhile (p := (· = 0x20)) member
      · intro member
        exact of_mem_takeWhile member rfl
      · intro byte head
        exact not_not.mp (not_of_head_dropWhile head)
  · rintro ⟨blanks, rest, rfl, blank, nonempty, inside, boundary⟩
    have differ : ∀ byte ∈ token, byte ≠ 0x20 := by
      rintro byte member rfl
      exact inside member
    have start : ∀ byte ∈ (token ++ rest).head?, ¬ byte = 0x20 := by
      cases token with
      | nil => exact absurd rfl nonempty
      | cons first others =>
          rintro byte ⟨⟩
          exact differ first List.mem_cons_self
    have stop : ∀ byte ∈ rest.head?, ¬ byte ≠ 0x20 :=
      fun byte head => not_not.mpr (boundary byte head)
    rw [(span_eq blank start).2, (span_eq differ stop).1, if_neg nonempty]

theorem strtok_eq_none_iff :
    strtok key = none ↔ ∀ byte ∈ key, byte = 0x20 := by
  constructor
  · intro missing
    cases rest : key.dropWhile (· = 0x20) with
    | nil =>
        intro byte member
        exact of_decide_eq_true (List.dropWhile_eq_nil_iff.mp rest byte member)
    | cons byte others =>
        have differs : byte ≠ 0x20 := by
          apply not_of_head_dropWhile (p := (· = 0x20))
          rw [rest]
          rfl
        simp [strtok, rest, differs] at missing
  · intro blank
    have nothing : key.dropWhile (· = 0x20) = [] :=
      List.dropWhile_eq_nil_iff.mpr fun byte member =>
        decide_eq_true (blank byte member)
    rw [strtok, nothing]
    rfl

end Cutting

/-! ## What a line does -/

/-- The register that a line changes, and its new address. -/
def effect (line : List UInt8) : Option (RegName × UInt16) :=
  if Comment line ∨ 0x3d ∉ line then none
  else ((strtok (keyPart line)).bind inWordSet).map
    fun name => (name, (strtoul (textPart line)).toUInt16)

section Lines

variable {addr : Addresses} {line : List UInt8} {lines : List (List UInt8)}
    {name : RegName}

/-- No two entries have the same name. -/
theorem regDecode_nodup : (regDecode.map fun entry => ascii entry.1).Nodup := by
  decide +kernel

theorem mem_regNames (name : RegName) : name ∈ regNames := by
  cases name <;> decide

/-- `in_word_set` finds the entry whose name is the key. -/
theorem inWordSet_eq_some_iff {key : List UInt8} :
    inWordSet key = some name ↔
      ∃ entry, (entry, name) ∈ regDecode ∧ ascii entry = key := by
  rw [inWordSet, Option.map_eq_some_iff]
  constructor
  · rintro ⟨⟨entry, name'⟩, found, rfl⟩
    have same := List.find?_some found
    exact ⟨entry, List.mem_of_find?_eq_some found, of_decide_eq_true same⟩
  · rintro ⟨entry, member, rfl⟩
    cases found : regDecode.find? fun other => ascii other.1 = ascii entry with
    | none =>
        have differs := List.find?_eq_none.mp found _ member
        simp at differs
    | some other =>
        have same : ascii other.1 = ascii entry := by
          simpa using List.find?_some found
        have equal := List.inj_on_of_nodup_map regDecode_nodup
          (List.mem_of_find?_eq_some found) member same
        exact ⟨other, rfl, by rw [equal]⟩

theorem usable_iff :
    Usable line ↔ (¬ Comment line → 0x3d ∈ line →
      (∃ byte ∈ keyPart line, byte ≠ 0x20) ∧
        strtoul (textPart line) < 0xffff) := by
  constructor
  · intro usable said equals
    exact usable _ _ said (cut_parts equals)
  · intro usable key text said cut
    rw [cut.unique.1, cut.unique.2]
    exact usable said cut.mem

instance (line : List UInt8) : Decidable (Usable line) :=
  decidable_of_iff _ usable_iff.symm

theorem regFromLine_eq (addr : Addresses) (line : List UInt8) :
    regFromLine addr line =
      if Comment line then .accepted addr
      else if 0x3d ∈ line then
        match strtok (keyPart line) with
        | some token => regFromPair addr token (strtoul (textPart line))
        | none => .aborted
      else .rejected () :=
  rfl

theorem regFromLine_of_not_formed (broken : ¬ Formed line) :
    regFromLine addr line = .rejected () := by
  rcases not_or.mp broken with ⟨comment, equals⟩
  rw [regFromLine_eq, if_neg comment, if_neg equals]

theorem regFromLine_of_formed (usable : Usable line)
    (formed : Formed line) :
    regFromLine addr line = .accepted (write effect addr line) := by
  rw [regFromLine_eq]
  by_cases comment : Comment line
  · rw [if_pos comment, write, effect, if_pos (.inl comment)]
  · have equals := formed.resolve_left comment
    have said : ¬ (Comment line ∨ 0x3d ∉ line) :=
      not_or.mpr ⟨comment, not_not.mpr equals⟩
    rcases usable_iff.mp usable comment equals with
      ⟨⟨byte, member, differs⟩, small⟩
    rw [if_neg comment, if_pos equals, write, effect, if_neg said]
    cases found : strtok (keyPart line) with
    | none => exact absurd (strtok_eq_none_iff.mp found byte member) differs
    | some token =>
        simp only [regFromPair, if_pos small, Option.bind_some]
        cases inWordSet token <;> rfl

theorem regFromLine_of_not_usable (unusable : ¬ Usable line) :
    regFromLine addr line = .aborted := by
  rw [usable_iff] at unusable
  push Not at unusable
  rcases unusable with ⟨comment, equals, fails⟩
  rw [regFromLine_eq, if_neg comment, if_pos equals]
  cases found : strtok (keyPart line) with
  | none => rfl
  | some token =>
      have large : 0xffff ≤ strtoul (textPart line) := by
        apply fails
        by_contra blank
        push Not at blank
        rw [strtok_eq_none_iff.mpr blank] at found
        cases found
      simp only [regFromPair, if_neg (not_lt.mpr large)]

/-- The effect of a line is what it says. -/
theorem effect_eq_some_iff (usable : Usable line) {value : UInt16} :
    effect line = some (name, value) ↔ Gives line name value.toNat := by
  unfold effect Gives
  by_cases comment : Comment line
  · simp [comment]
  by_cases equals : 0x3d ∈ line
  · have small := (usable_iff.mp usable comment equals).2
    have stored : (strtoul (textPart line)).toUInt16 = value ↔
        value.toNat = strtoul (textPart line) := by
      rw [← UInt16.toNat_inj]
      have exact' : (strtoul (textPart line)).toUInt16.toNat =
          strtoul (textPart line) := Nat.mod_eq_of_lt (by omega)
      rw [exact', eq_comm]
    rw [if_neg (not_or.mpr ⟨comment, not_not.mpr equals⟩),
      Option.map_eq_some_iff]
    constructor
    · rintro ⟨name', found, same⟩
      cases same
      rcases Option.bind_eq_some_iff.mp found with ⟨token, first, known⟩
      rcases inWordSet_eq_some_iff.mp known with ⟨entry, member, rfl⟩
      exact ⟨comment, entry, _, _, member, cut_parts equals,
        strtok_eq_some_iff.mp first, stored.mp rfl⟩
    · rintro ⟨-, entry, key, text, member, cut, first, same⟩
      rw [cut.unique.1] at first
      rw [cut.unique.2] at same
      refine ⟨name, ?_, by rw [stored.mpr same]⟩
      rw [strtok_eq_some_iff.mpr first, Option.bind_some]
      exact inWordSet_eq_some_iff.mpr ⟨entry, member, rfl⟩
  · rw [if_pos (.inr equals)]
    constructor
    · intro nothing
      cases nothing
    · rintro ⟨-, entry, key, text, -, cut, -⟩
      exact absurd cut.mem equals

/-- A value that is given has an address of its own. -/
theorem Gives.lt {value : Nat} (usable : Usable line)
    (gives : Gives line name value) : value < 0xffff := by
  rcases gives with ⟨said, entry, key, text, -, cut, -, rfl⟩
  exact (usable key text said cut).2

/-- A line gives one value. -/
theorem Gives.unique {value other : Nat} (gives : Gives line name value)
    (gives' : Gives line name other) : value = other := by
  rcases gives with ⟨-, entry, key, text, -, cut, -, rfl⟩
  rcases gives' with ⟨-, entry', key', text', -, cut', -, rfl⟩
  have texts : text = text' := cut.unique.2.trans cut'.unique.2.symm
  rw [texts]

/-! ## What the lines do -/

/-- No assertion fails up to the first line that is not formed. -/
def Sound : List (List UInt8) → Prop
  | [] => True
  | line :: lines => Usable line ∧ (Formed line → Sound lines)

theorem sound_iff :
    Sound lines ↔
      ∀ before line after, lines = before ++ line :: after →
        (∀ earlier ∈ before, Formed earlier) → Usable line := by
  induction lines with
  | nil => simp [Sound]
  | cons line lines ih =>
      rw [Sound, ih]
      constructor
      · rintro ⟨usable, sound⟩ before line' after same formed
        cases before with
        | nil =>
            cases same
            exact usable
        | cons first before =>
            cases same
            exact sound (formed _ List.mem_cons_self) before line' after rfl
              fun earlier member =>
                formed earlier (List.mem_cons_of_mem _ member)
      · intro sound
        constructor
        · exact sound [] line lines rfl (by simp)
        · rintro formed before line' after rfl earlier
          exact sound (line :: before) line' after rfl
            (List.forall_mem_cons.mpr ⟨formed, earlier⟩)

theorem sound_of_usable (usable : ∀ line ∈ lines, Usable line) :
    Sound lines :=
  sound_iff.mpr fun before line after same _ =>
    usable line (by simp [same])

theorem regFromLines_of_sound (addr : Addresses) (sound : Sound lines) :
    regFromLines addr lines =
      if ∀ line ∈ lines, Formed line then
        .accepted (written effect addr lines)
      else .rejected () := by
  induction lines generalizing addr with
  | nil => simp [regFromLines, written]
  | cons line lines ih =>
      rw [regFromLines]
      by_cases formed : Formed line
      · rw [regFromLine_of_formed sound.1 formed]
        simp only [List.forall_mem_cons, formed, true_and]
        exact ih _ (sound.2 formed)
      · rw [regFromLine_of_not_formed formed, if_neg]
        intro all
        exact formed (all line List.mem_cons_self)

theorem regFromLines_of_not_sound (addr : Addresses)
    (unsound : ¬ Sound lines) :
    regFromLines addr lines = .aborted := by
  induction lines generalizing addr with
  | nil => exact absurd trivial unsound
  | cons line lines ih =>
      rw [regFromLines]
      by_cases usable : Usable line
      · have formed : Formed line := by
          by_contra broken
          exact unsound ⟨usable, fun formed => absurd formed broken⟩
        rw [regFromLine_of_formed usable formed]
        exact ih _ fun sound => unsound ⟨usable, fun _ => sound⟩
      · rw [regFromLine_of_not_usable usable]

end Lines

/-! ## `reg_init` -/

section Map

variable {map : List UInt8} {lines : List (List UInt8)} {addr : Addresses}

/-- The last line that names the register gives it this value. -/
def LastGiven (lines : List (List UInt8)) (name : RegName) (value : Nat) :
    Prop :=
  ∃ before line after, lines = before ++ line :: after ∧
    Gives line name value ∧ ∀ later ∈ after, ∀ other, ¬ Gives later name other

/-- A value that is given and stored is not changed on the way. -/
theorem toNat_toUInt16_of_gives {line : List UInt8} {name : RegName}
    {value : Nat} (usable : Usable line) (gives : Gives line name value) :
    value.toUInt16.toNat = value :=
  Nat.mod_eq_of_lt ((gives.lt usable).trans (by decide))

theorem lastGiven_of_lastWrite (usable : ∀ line ∈ lines, Usable line)
    {name : RegName} {value : UInt16}
    (last : LastWrite effect lines name value) :
    LastGiven lines name value.toNat := by
  rcases last with ⟨before, line, after, rfl, writes, rest⟩
  have gives := (effect_eq_some_iff (usable line (by simp))).mp writes
  refine ⟨before, line, after, rfl, gives, fun later member other given => ?_⟩
  have usable' := usable later (by simp [member])
  rw [← toNat_toUInt16_of_gives usable' given] at given
  exact rest later member _ ((effect_eq_some_iff usable').mpr given)

/-- A register is named, or its address is still missing. -/
theorem written_given (usable : ∀ line ∈ lines, Usable line)
    (name : RegName) :
    (written effect (fun _ => 0xffff) lines name = 0xffff ∧
        ∀ line ∈ lines, ∀ value, ¬ Gives line name value) ∨
      LastGiven lines name
        (written effect (fun _ => 0xffff) lines name).toNat := by
  rcases written_cases effect (fun _ => 0xffff) lines name with
    ⟨kept, nobody⟩ | last
  · refine .inl ⟨kept, fun line member value gives => ?_⟩
    rw [← toNat_toUInt16_of_gives (usable line member) gives] at gives
    exact nobody line member _
      ((effect_eq_some_iff (usable line member)).mpr gives)
  · exact .inr (lastGiven_of_lastWrite usable last)

theorem LastGiven.lt (usable : ∀ line ∈ lines, Usable line) {name : RegName}
    {value : Nat} (last : LastGiven lines name value) : value < 0xffff := by
  rcases last with ⟨before, line, after, rfl, gives, -⟩
  exact gives.lt (usable line (by simp))

/-- There is one last line for a register. -/
theorem LastGiven.unique {name : RegName} {value other : Nat}
    (last : LastGiven lines name value)
    (last' : LastGiven lines name other) : value = other := by
  obtain ⟨before, line, after, rfl, gives, final⟩ := last
  obtain ⟨before', line', after', same, gives', final'⟩ := last'
  rcases List.append_eq_append_iff.mp same with
    ⟨between, -, rest⟩ | ⟨between, -, rest⟩
  · cases between with
    | nil =>
        cases rest
        exact gives.unique gives'
    | cons first between =>
        cases rest
        exact absurd gives' (final line' (by simp) other)
  · cases between with
    | nil =>
        cases rest
        exact gives.unique gives'
    | cons first between =>
        cases rest
        exact absurd gives (final' line (by simp) value)

/-- The addresses are valid when all registers are named. -/
theorem valid_written_iff (usable : ∀ line ∈ lines, Usable line) :
    Valid (written effect (fun _ => 0xffff) lines) ↔
      ∀ name, ∃ line ∈ lines, ∃ value, Gives line name value := by
  constructor
  · intro valid name
    rcases written_given usable name with ⟨missing, -⟩ | last
    · exact absurd missing (valid name (mem_regNames name))
    · rcases last with ⟨before, line, after, rfl, gives, -⟩
      exact ⟨line, by simp, _, gives⟩
  · intro named name _ missing
    rcases written_given usable name with ⟨-, nobody⟩ | last
    · rcases named name with ⟨line, member, value, gives⟩
      exact nobody line member value gives
    · have small := last.lt usable
      rw [missing] at small
      exact absurd small (by decide)

theorem regInit_of_sound (sound : Sound (mapLines map)) :
    regInit map =
      if ∀ line ∈ mapLines map, Formed line then
        if Valid (written effect (fun _ => 0xffff) (mapLines map)) then
          .accepted (written effect (fun _ => 0xffff) (mapLines map))
        else .rejected "Missed register address"
      else .rejected "Can not parse register map" := by
  have lines := regFromLines_of_sound (fun _ => 0xffff) sound
  rw [mapLines] at lines ⊢
  rw [regInit, lines]
  by_cases formed : ∀ line ∈ (cString map).splitOn 0x0a, Formed line
  · simp only [if_pos formed]
  · simp only [if_neg formed]

/-- The accepted addresses are those of the last lines. -/
theorem lastGiven_of_accepted (usable : ∀ line ∈ mapLines map, Usable line)
    (accepted : regInit map = .accepted addr) (name : RegName) :
    LastGiven (mapLines map) name (addr name).toNat := by
  rw [regInit_of_sound (sound_of_usable usable)] at accepted
  split at accepted
  · split at accepted
    · rename_i valid
      obtain rfl := Parsed.accepted.inj accepted
      rcases written_given usable name with ⟨missing, -⟩ | last
      · exact absurd missing (valid name (mem_regNames name))
      · exact last
    · cases accepted
  · cases accepted

/--
A map whose keys and values are usable is accepted exactly when every line is
a comment or has an equals sign and every register is named.  Then a register
has the value that the last line for it gives.
-/
theorem regInit_reads (map : List UInt8)
    (usable : ∀ line ∈ mapLines map, Usable line) :
    ((∃ addr, regInit map = .accepted addr) ↔
        (∀ line ∈ mapLines map, Comment line ∨ 0x3d ∈ line) ∧
          ∀ name, ∃ line ∈ mapLines map, ∃ value,
            Gives line name value) ∧
      ∀ addr, regInit map = .accepted addr →
        ∀ name, LastGiven (mapLines map) name (addr name).toNat := by
  refine ⟨?_, fun addr => lastGiven_of_accepted usable⟩
  rw [regInit_of_sound (sound_of_usable usable),
    ← valid_written_iff usable]
  by_cases formed : ∀ line ∈ mapLines map, Formed line
  · rw [if_pos formed]
    by_cases valid :
        Valid (written effect (fun _ => 0xffff) (mapLines map))
    · rw [if_pos valid]
      exact ⟨fun _ => ⟨formed, valid⟩, fun _ => ⟨_, rfl⟩⟩
    · rw [if_neg valid]
      refine ⟨?_, fun both => absurd both.2 valid⟩
      rintro ⟨addr, ⟨⟩⟩
  · rw [if_neg formed]
    refine ⟨?_, fun both => absurd both.1 formed⟩
    rintro ⟨addr, ⟨⟩⟩

theorem exists_accepted (map : List UInt8)
    (accepted : (regInit map matches .accepted _) = true) :
    ∃ addr, regInit map = .accepted addr := by
  cases same : regInit map with
  | accepted addr => exact ⟨addr, rfl⟩
  | rejected text => simp [same] at accepted
  | aborted => simp [same] at accepted

/-- A map with an address for every register. -/
def oneEach : List UInt8 :=
  List.intercalate [0x0a] (regDecode.map fun entry =>
    ascii entry.1 ++ ascii " = 42")

theorem regInit_reads_oneEach :
    ∃ addr, regInit oneEach = .accepted addr ∧
      LastGiven (mapLines oneEach) .ledsOut (addr .ledsOut).toNat := by
  have reads := (regInit_reads oneEach (by decide +kernel)).2
  obtain ⟨addr, accepted⟩ := exists_accepted oneEach (by decide +kernel)
  exact ⟨addr, accepted, reads addr accepted .ledsOut⟩

/-! ## The assertions -/

/-- The function returns. -/
def Settles (map : List UInt8) : Prop :=
  (∃ addr, regInit map = .accepted addr) ∨
    ∃ text, regInit map = .rejected text

/--
On every line that `reg_init` comes to, the key has a token and the value is
less than `0xffff`.
-/
def AssertionsHold (map : List UInt8) : Prop :=
  ∀ before line after, mapLines map = before ++ line :: after →
    (∃ addr, regFromLines (fun _ => 0xffff) before = .accepted addr) →
      ∀ key text, ¬ Comment line → Cut line key text →
        (∃ token, strtok key = some token) ∧ strtoul text < 0xffff

theorem sound_of_settles (settles : Settles map) : Sound (mapLines map) := by
  by_contra unsound
  have aborted : regInit map = .aborted := by
    have lines := regFromLines_of_not_sound (fun _ => 0xffff) unsound
    rw [mapLines] at lines
    rw [regInit, lines]
  rcases settles with ⟨addr, same⟩ | ⟨text, same⟩
  · rw [aborted] at same
    cases same
  · rw [aborted] at same
    cases same

theorem settles_of_sound (sound : Sound (mapLines map)) : Settles map := by
  unfold Settles
  rw [regInit_of_sound sound]
  split
  · split
    · exact .inl ⟨_, rfl⟩
    · exact .inr ⟨_, rfl⟩
  · exact .inr ⟨_, rfl⟩

/-- The lines before a line that is reached are formed. -/
theorem formed_of_accepted {before : List (List UInt8)} {addr : Addresses}
    (sound : Sound before)
    (accepted : regFromLines (fun _ => 0xffff) before = .accepted addr) :
    ∀ line ∈ before, Formed line := by
  rw [regFromLines_of_sound _ sound] at accepted
  by_contra broken
  rw [if_neg broken] at accepted
  cases accepted

theorem sound_of_append {before after : List (List UInt8)}
    (sound : Sound (before ++ after)) : Sound before := by
  refine sound_iff.mpr fun first line last same formed => ?_
  exact sound_iff.mp sound first line (last ++ after) (by simp [same]) formed

theorem assertionsHold_of_sound (sound : Sound (mapLines map)) :
    AssertionsHold map := by
  intro before line after same reached key text said cut
  rcases reached with ⟨addr, accepted⟩
  have formed : ∀ earlier ∈ before, Formed earlier := by
    have whole := sound
    rw [same] at whole
    exact formed_of_accepted (sound_of_append whole) accepted
  rcases sound_iff.mp sound before line after same formed key text said cut
    with ⟨⟨byte, member, differs⟩, small⟩
  refine ⟨Option.ne_none_iff_exists'.mp fun missing => ?_, small⟩
  exact differs (strtok_eq_none_iff.mp missing byte member)

/--
`reg_init` returns and its assertions hold exactly when every line has a key
and a small value, up to the first line that is neither a comment nor has an
equals sign.
-/
theorem regInit_settles_iff (map : List UInt8) :
    Settles map ∧ AssertionsHold map ↔
      ∀ before line after, mapLines map = before ++ line :: after →
        (∀ earlier ∈ before, Comment earlier ∨ 0x3d ∈ earlier) →
          Usable line := by
  have sound : Sound (mapLines map) ↔ _ := sound_iff
  constructor
  · rintro ⟨settles, -⟩
    exact sound.mp (sound_of_settles settles)
  · intro usable
    have sound' := sound.mpr usable
    exact ⟨settles_of_sound sound', assertionsHold_of_sound sound'⟩

/-- A line without a key. -/
theorem blankKey_aborts : ¬ Settles (ascii "=1") := by
  have aborted : regInit (ascii "=1") = .aborted := rfl
  rintro (⟨addr, same⟩ | ⟨text, same⟩)
  · rw [aborted] at same
    cases same
  · rw [aborted] at same
    cases same

end Map

end OpenVizsla.Register.Grammar
