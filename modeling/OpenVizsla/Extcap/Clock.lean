import Mathlib
import OpenVizsla.Extcap.Queue

/-!
# The clock of the extcap tool

`packet_handler` keeps the time as a number of seconds and a number of ticks
of a clock of 60 MHz.  `Shows` compares both with an exact number of ticks,
which is what all statements about the clock follow from.
-/

namespace OpenVizsla.Extcap.Clock

open OpenVizsla.Foundation.Runs
open OpenVizsla.Decoder.Packet
open OpenVizsla.Decoder.Reported
open OpenVizsla.Extcap.Filter
open OpenVizsla.Extcap.Session
open OpenVizsla.Extcap.Queue

/-- The variable `nsec` of `packet_handler`, when the clock has been set. -/
def nsec (data : HandlerData) : UInt32 :=
  data.tsOffset * 17 - data.tsOffset / 3

/-- The time of a record is what the clock shows. -/
theorem time_recordOf (packet : OvPacket) (data : HandlerData) :
    (recordOf packet data).tsSec = (advanceClock packet data).utcTs ∧
      (recordOf packet data).tsNsec = nsec (advanceClock packet data) :=
  ⟨rfl, rfl⟩

/-- The number of ticks that the clock shows. -/
def ticksOf (data : HandlerData) : Nat :=
  data.utcTs.toNat * 60000000 + data.tsOffset.toNat

/-- The differences between successive timestamps. -/
def differences (last : UInt64) : List OvPacket → List UInt64
  | [] => []
  | packet :: rest =>
      (packet.timestamp - last) :: differences packet.timestamp rest

/-- The ticks that pass until the last packet. -/
def elapsed (last : UInt64) (packets : List OvPacket) : Nat :=
  ((differences last packets).map UInt64.toNat).sum

/-- No difference is so large that it overflows with the ticks of a second. -/
def SmallDifferences (last : UInt64) (packets : List OvPacket) : Prop :=
  ∀ diff ∈ differences last packets, diff.toNat < 2 ^ 64 - 60000000

theorem smallDifferences_nil (last : UInt64) : SmallDifferences last [] := by
  simp [SmallDifferences, differences]

theorem smallDifferences_cons {last : UInt64} {packet : OvPacket}
    {rest : List OvPacket} :
    SmallDifferences last (packet :: rest) ↔
      (packet.timestamp - last).toNat < 2 ^ 64 - 60000000 ∧
        SmallDifferences packet.timestamp rest := by
  rw [SmallDifferences, differences, List.forall_mem_cons]
  rfl

/-! ## The exact number of ticks -/

/-- The clock shows this number of ticks; the seconds may have wrapped. -/
structure Shows (data : HandlerData) (ticks : Nat) : Prop where
  seconds : data.utcTs.toNat = ticks / 60000000 % 2 ^ 32
  offset : data.tsOffset.toNat = ticks % 60000000

theorem shows_advanceClock {packet : OvPacket} {data : HandlerData}
    {ticks : Nat} (shows : Shows data ticks)
    (small : (packet.timestamp - data.lastOvTs).toNat <
      2 ^ 64 - 60000000) :
    Shows (advanceClock packet data)
      (ticks + (packet.timestamp - data.lastOvTs).toNat) := by
  have offset := shows.offset
  have seconds := shows.seconds
  have elapsed : (data.tsOffset.toUInt64 +
        (packet.timestamp - data.lastOvTs)).toNat =
      data.tsOffset.toNat + (packet.timestamp - data.lastOvTs).toNat := by
    rw [UInt64.toNat_add, UInt32.toNat_toUInt64]
    apply Nat.mod_eq_of_lt
    omega
  have frequency : ovTimestampFreqHz.toNat = 60000000 := rfl
  constructor
  · show (data.utcTs + (_ / ovTimestampFreqHz).toUInt32).toNat = _
    rw [UInt32.toNat_add, UInt64.toNat_toUInt32, UInt64.toNat_div, elapsed,
      frequency]
    omega
  · show (_ % ovTimestampFreqHz).toUInt32.toNat = _
    rw [UInt64.toNat_toUInt32, UInt64.toNat_mod, elapsed, frequency]
    omega

/-- One call adds the difference of the timestamps. -/
theorem shows_handle {packet : OvPacket} {data next : HandlerData}
    {ticks : Nat} (shows : Shows data ticks)
    (small : (packet.timestamp - data.lastOvTs).toNat < 2 ^ 64 - 60000000)
    (handled : handle data packet = some next) :
    Shows next (ticks + (packet.timestamp - data.lastOvTs).toNat) ∧
      next.lastOvTs = packet.timestamp := by
  obtain ⟨seconds, offset, last⟩ := clock_of_handle handled
  have advanced := shows_advanceClock shows small
  constructor
  · constructor
    · rw [seconds]
      exact advanced.seconds
    · rw [offset]
      exact advanced.offset
  · exact last

/-- A run adds all differences. -/
theorem shows_run {data finish : HandlerData} {ticks : Nat}
    {packets : List OvPacket} (shows : Shows data ticks)
    (small : SmallDifferences data.lastOvTs packets)
    (reached : run handle data packets = some finish) :
    Shows finish (ticks + elapsed data.lastOvTs packets) := by
  induction packets generalizing data ticks with
  | nil =>
      cases reached
      exact shows
  | cons packet rest ih =>
      obtain ⟨next, handled, reached⟩ := run_cons_eq_some_iff.mp reached
      obtain ⟨small, later⟩ := smallDifferences_cons.mp small
      obtain ⟨shows', last⟩ := shows_handle shows small handled
      rw [← last] at later
      have shows'' := ih shows' later reached
      rw [last, Nat.add_assoc] at shows''
      rw [elapsed, differences, List.map_cons, List.sum_cons]
      exact shows''

theorem differences_append (last : UInt64) (first second : List OvPacket) :
    ∃ last', differences last (first ++ second) =
      differences last first ++ differences last' second := by
  induction first generalizing last with
  | nil => exact ⟨last, rfl⟩
  | cons packet rest ih =>
      obtain ⟨last', split⟩ := ih packet.timestamp
      refine ⟨last', ?_⟩
      rw [List.cons_append, differences, split, differences,
        List.cons_append]

theorem elapsed_le_append (last : UInt64) (first second : List OvPacket) :
    elapsed last first ≤ elapsed last (first ++ second) := by
  obtain ⟨last', split⟩ := differences_append last first second
  rw [elapsed, elapsed, split, List.map_append, List.sum_append]
  exact Nat.le_add_right _ _

/-! ## Nanoseconds -/

/-- `17 n - n / 3` is `50 n / 3`, rounded up. -/
theorem ceil_nanoseconds (ticks : Nat) :
    ticks * 17 - ticks / 3 = ⌈(ticks * 50 / 3 : ℚ)⌉₊ := by
  apply le_antisymm
  · have rounded := Nat.le_ceil (ticks * 50 / 3 : ℚ)
    rw [div_le_iff₀ (by norm_num)] at rounded
    have whole : ticks * 50 ≤ ⌈(ticks * 50 / 3 : ℚ)⌉₊ * 3 := by
      exact_mod_cast rounded
    omega
  · rw [Nat.ceil_le, div_le_iff₀ (by norm_num)]
    have whole : ticks * 50 ≤ (ticks * 17 - ticks / 3) * 3 := by omega
    exact_mod_cast whole

/-- The computation of `nsec` stays in the range of its type. -/
theorem toNat_nsec {data : HandlerData}
    (offset : data.tsOffset.toNat < 60000000) :
    (nsec data).toNat =
      data.tsOffset.toNat * 17 - data.tsOffset.toNat / 3 := by
  have product : (data.tsOffset * 17).toNat = data.tsOffset.toNat * 17 := by
    rw [UInt32.toNat_mul]
    apply Nat.mod_eq_of_lt
    show data.tsOffset.toNat * 17 < 2 ^ 32
    omega
  have quotient : (data.tsOffset / 3).toNat = data.tsOffset.toNat / 3 :=
    UInt32.toNat_div _ _
  rw [nsec, UInt32.toNat_sub_of_le, product, quotient]
  rw [UInt32.le_iff_toNat_le, product, quotient]
  omega

/-! ## What the clock shows -/

/-- The time of a record. -/
def time (data : HandlerData) : UInt32 ×ₗ UInt32 :=
  toLex (data.utcTs, nsec data)

theorem Shows.time_le {earlier later : HandlerData} {first second : Nat}
    (before : Shows earlier first) (after : Shows later second)
    (ordered : first ≤ second) (representable : second < 2 ^ 32 * 60000000) :
    time earlier ≤ time later := by
  have ordered' : first / 60000000 ≤ second / 60000000 :=
    Nat.div_le_div_right ordered
  have seconds : earlier.utcTs.toNat = first / 60000000 := by
    rw [before.seconds]
    apply Nat.mod_eq_of_lt
    omega
  have seconds' : later.utcTs.toNat = second / 60000000 := by
    rw [after.seconds]
    apply Nat.mod_eq_of_lt
    omega
  have offset := before.offset
  have offset' := after.offset
  rw [time, time, Prod.Lex.toLex_le_toLex]
  rcases Nat.lt_or_ge earlier.utcTs.toNat later.utcTs.toNat with less | same
  · exact .inl (UInt32.lt_iff_toNat_lt.mpr less)
  · have equal : earlier.utcTs.toNat = later.utcTs.toNat := by omega
    have ticks : earlier.tsOffset.toNat ≤ later.tsOffset.toNat := by omega
    refine .inr ⟨UInt32.toNat_inj.mp equal, ?_⟩
    rw [UInt32.le_iff_toNat_le, toNat_nsec (by omega),
      toNat_nsec (by omega)]
    omega

/-- What `ts_offset` and `nsec` have in common in all reached states. -/
structure Bounded (data : HandlerData) : Prop where
  offset : data.tsOffset.toNat < 60000000
  /-- Neither the product nor the difference leaves the range of 32 bits. -/
  product : data.tsOffset.toNat * 17 < 2 ^ 32
  exact :
    (nsec data).toNat =
      data.tsOffset.toNat * 17 - data.tsOffset.toNat / 3
  rounded : (nsec data).toNat = ⌈(data.tsOffset.toNat * 50 / 3 : ℚ)⌉₊
  nanoseconds : (nsec data).toNat < 10 ^ 9

theorem Shows.bounded {data : HandlerData} {ticks : Nat}
    (shows : Shows data ticks) : Bounded data := by
  have offset : data.tsOffset.toNat < 60000000 := by
    rw [shows.offset]
    exact Nat.mod_lt _ (by decide)
  have exact' := toNat_nsec offset
  constructor
  · exact offset
  · omega
  · exact exact'
  · rw [exact', ceil_nanoseconds]
  · omega

theorem Shows.modEq {data : HandlerData} {ticks : Nat}
    (shows : Shows data ticks) :
    ticksOf data ≡ ticks [MOD 2 ^ 32 * 60000000] := by
  have seconds := shows.seconds
  have offset := shows.offset
  rw [Nat.ModEq, ticksOf]
  omega

/-- The ticks of a start time leave the offset below one second. -/
theorem shows_startHandler {ts : Timespec} (normalised : ts.tvNsec < 10 ^ 9)
    (options : Options) (out debug : Output) :
    Shows (startHandler ts options out debug)
      (ticksOf (startHandler ts options out debug)) := by
  have offset : (startHandler ts options out debug).tsOffset.toNat <
      60000000 := by
    show (UInt32.ofNat (ts.tvNsec / 17 + ts.tvNsec / 850)).toNat < 60000000
    have whole : ts.tvNsec / 17 ≤ 58823529 := by omega
    have rest : ts.tvNsec / 850 ≤ 1176470 := by omega
    have total : ts.tvNsec / 17 + ts.tvNsec / 850 < 60000000 := by omega
    rw [UInt32.toNat_ofNat_of_lt' (total.trans (by decide))]
    exact total
  have seconds := (startHandler ts options out debug).utcTs.toNat_lt
  constructor <;> rw [ticksOf] <;> omega

/--
The clock after any number of calls of `packet_handler`.  It is exact up to
the range of the seconds and does not go back.  The calls themselves never
fail.
-/
theorem clock_exact (ts : Timespec) (normalised : ts.tvNsec < 10 ^ 9)
    (options : Options) (out debug : Output) {packets : List OvPacket}
    (small : SmallDifferences 0 packets) :
    ((∀ packet ∈ packets, Decoded packet) →
      ∃ data,
        run handle (startHandler ts options out debug) packets = some data) ∧
    ∀ data, run handle (startHandler ts options out debug) packets =
        some data →
      ticksOf data ≡
          ticksOf (startHandler ts options out debug) + elapsed 0 packets
          [MOD 2 ^ 32 * 60000000] ∧
        Bounded data ∧
        (ticksOf (startHandler ts options out debug) + elapsed 0 packets <
            2 ^ 32 * 60000000 →
          ∀ first rest before, packets = first ++ rest →
            run handle (startHandler ts options out debug) first =
                some before →
              time before ≤ time data) := by
  have start := shows_startHandler normalised options out debug
  constructor
  · intro decoded
    obtain ⟨data, reached, -⟩ := run_holds ts options out debug decoded
    exact ⟨data, reached⟩
  · intro data reached
    have shows := shows_run start small reached
    refine ⟨shows.modEq, shows.bounded, ?_⟩
    rintro representable first rest before rfl reached'
    have earlier : SmallDifferences 0 first := by
      obtain ⟨last', split⟩ := differences_append 0 first rest
      rw [SmallDifferences, split] at small
      exact fun diff member =>
        small diff (List.mem_append_left _ member)
    have shows' := shows_run start earlier reached'
    refine shows'.time_le shows ?_ representable
    exact Nat.add_le_add_left (elapsed_le_append 0 first rest) _

/-- The start of a capture, at the end of the first second. -/
def lateStart : HandlerData :=
  startHandler ⟨1, 999999999⟩ ⟨288, true, true⟩ (newFile true) (newFile true)

/-- A token, and a packet without data one second later. -/
def secondLater : List OvPacket :=
  [pidPacket 0 usbPidTokenIn, ⟨0xa0, 0, 0, 60000000, []⟩]

theorem clock_exact_secondLater :
    ∃ data, run handle lateStart secondLater = some data ∧
      ticksOf data ≡ 179999999 [MOD 2 ^ 32 * 60000000] := by
  have small : SmallDifferences 0 secondLater := by
    rw [secondLater, smallDifferences_cons, smallDifferences_cons]
    exact ⟨by decide, by decide, smallDifferences_nil _⟩
  obtain ⟨possible, exact'⟩ := clock_exact ⟨1, 999999999⟩ (by decide)
    ⟨288, true, true⟩ (newFile true) (newFile true) small
  obtain ⟨data, reached⟩ := possible (by decide)
  obtain ⟨modEq, -⟩ := exact' data reached
  have ticks : ticksOf lateStart + elapsed 0 secondLater = 179999999 := by
    decide +kernel
  refine ⟨data, reached, ?_⟩
  rw [← ticks]
  exact modEq

end OpenVizsla.Extcap.Clock
