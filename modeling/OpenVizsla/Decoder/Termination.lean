import OpenVizsla.Decoder.Checked

/-!
# What the frame decoder returns

A call of `frame_decoder_proc` comes to an end, and it consumes the whole
buffer unless there is a wrong byte where a magic byte is due.  It returns the
number of bytes as an `int`.
-/

namespace OpenVizsla.Decoder.Termination

open OpenVizsla.Foundation.Integers
open OpenVizsla.Decoder.PacketProc
open OpenVizsla.Decoder.FrameProc
open OpenVizsla.Decoder.Invariant
open OpenVizsla.Decoder.ByteMachine
open OpenVizsla.Decoder.Callbacks
open OpenVizsla.Decoder.Checked

variable {σ : Type*}

/-! ## Wrong bytes -/

/-- The next payload byte is the first byte of a packet or a filler. -/
def PacketDue (pd : PacketDecoder) : Prop :=
  pd.state = .needPacketMagic ∨
    pd.state = .needPacketData ∧ requiredLength pd = 0

/-- The byte is no magic byte where the decoder needs one. -/
def WrongMagic (fd : FrameDecoder) (byte : UInt8) : Prop :=
  fd.state = .needFrameMagic ∧ byte ≠ 0x55 ∧ byte ≠ 0xd0 ∨
    fd.state = .needSdramFrameData ∧ PacketDue fd.pd ∧
      byte ≠ 0xa1 ∧ byte ≠ 0xa0 ∧ byte ≠ 0xa2

/-- There is such a byte in the buffer. -/
def HasWrongMagic (fd : FrameDecoder) (input : List UInt8) : Prop :=
  ∃ before byte rest reached, input = before ++ byte :: rest ∧
    frameBytes recorder (fd, []) before = .ok reached ∧
      WrongMagic reached.1 byte

/-- Only a wrong magic byte is rejected in front of a packet. -/
theorem packetHeaderByte_error_iff (pd : PacketDecoder) (byte : UInt8) :
    (∃ failed, packetHeaderByte pd byte = .error failed) ↔
      pd.state = .needPacketMagic ∧
        byte ≠ 0xa1 ∧ byte ≠ 0xa0 ∧ byte ≠ 0xa2 := by
  unfold packetHeaderByte
  cases state : pd.state with
  | needPacketMagic =>
      by_cases filler : byte = 0xa1
      · simp [filler]
      · by_cases wrong : byte ≠ 0xa0 ∧ byte ≠ 0xa2 <;> simp [filler, wrong]
  | needPacketTimestamp =>
      dsimp only
      split <;> simp
  | needPacketFlags | needPacketLengthLo | needPacketLengthHi
  | needPacketData => simp

theorem packetByte_error_iff (ops : DecoderOps σ) (pd : PacketDecoder)
    (user : σ) (byte : UInt8) :
    (∃ failed, packetByte ops (pd, user) byte = .error failed) ↔
      PacketDue pd ∧ byte ≠ 0xa1 ∧ byte ≠ 0xa0 ∧ byte ≠ 0xa2 := by
  have due : (settle ops (pd, user)).1.state = .needPacketMagic ↔
      PacketDue pd := by
    unfold settle PacketDue
    split
    · rename_i pending
      exact iff_of_true rfl (.inr pending)
    · rename_i missing
      simp [missing]
  rw [← due]
  unfold packetByte settledByte
  split
  · rename_i data
    simp [data]
  · have header := packetHeaderByte_error_iff (settle ops (pd, user)).1 byte
    rw [← header]
    cases packetHeaderByte (settle ops (pd, user)).1 byte <;> simp

theorem frameHeaderByte_error_iff (ops : DecoderOps σ) (fd : FrameDecoder)
    (user : σ) (byte : UInt8) :
    (∃ failed, frameHeaderByte ops fd user byte = .error failed) ↔
      fd.state = .needFrameMagic ∧ byte ≠ 0x55 ∧ byte ≠ 0xd0 := by
  unfold frameHeaderByte
  cases state : fd.state with
  | needFrameMagic =>
      by_cases bus : byte = 0x55
      · simp [bus]
      · by_cases sdram : byte = 0xd0 <;> simp [bus, sdram]
  | needSdramFrameLength | needSdramFrameData | needBusFrameAddrHi
  | needBusFrameAddrLo | needBusFrameValue | needBusFrameChecksum => simp

theorem frameByte_error_iff (ops : DecoderOps σ) (fd : FrameDecoder)
    (user : σ) (byte : UInt8) :
    (∃ failed, frameByte ops (fd, user) byte = .error failed) ↔
      WrongMagic fd byte := by
  unfold frameByte WrongMagic
  by_cases data : fd.state = .needSdramFrameData
  · have payload := packetByte_error_iff ops fd.pd user byte
    simp only [data, if_true, reduceCtorEq, false_and, false_or, true_and]
    rw [← payload]
    cases packetByte ops (fd.pd, user) byte <;> simp
  · have header := frameHeaderByte_error_iff ops fd user byte
    simp only [data, if_false, false_and, or_false]
    rw [← header]
    cases frameHeaderByte ops fd user byte <;> simp

/-- The byte machine stops at the wrong byte. -/
theorem frameBytes_error_iff (current : FrameDecoder × List Callback)
    (input : List UInt8) :
    (∃ failed, frameBytes recorder current input = .error failed) ↔
      ∃ before byte rest reached, input = before ++ byte :: rest ∧
        frameBytes recorder current before = .ok reached ∧
          WrongMagic reached.1 byte := by
  constructor
  · rintro ⟨failed, run⟩
    induction input generalizing current with
    | nil => cases run
    | cons byte rest ih =>
        rw [frameBytes_cons] at run
        cases step : frameByte recorder current byte with
        | error rejected =>
            have wrong := (frameByte_error_iff recorder current.1 current.2
              byte).mp ⟨rejected, step⟩
            exact ⟨[], byte, rest, current, rfl, rfl, wrong⟩
        | ok next =>
            rw [step] at run
            obtain ⟨before, wrong, after, reached, rfl, run', rejected⟩ :=
              ih next run
            refine ⟨byte :: before, wrong, after, reached, rfl, ?_, rejected⟩
            rw [frameBytes_cons, step]
            exact run'
  · rintro ⟨before, byte, rest, reached, rfl, run, wrong⟩
    obtain ⟨failed, step⟩ :=
      (frameByte_error_iff recorder reached.1 reached.2 byte).mpr wrong
    refine ⟨failed, ?_⟩
    rw [frameBytes_append, run, Except.bind, frameBytes_cons, step]
    rfl

/-! ## The returned value -/

/-- A call fails because of a wrong byte, whatever the callbacks do. -/
theorem consumed_eq_none_iff (ops : DecoderOps σ) {fd : FrameDecoder}
    (user : σ) (input : List UInt8) (splitting : Splitting fd) :
    (frameDecoderProc ops fd user input).consumed = none ↔
      HasWrongMagic fd input := by
  have follows :=
    frameDecoderProc_frameBytes recorder fd [] input splitting
  rw [(frameDecoderProc_client ops user input splitting).1, HasWrongMagic,
    ← frameBytes_error_iff]
  cases run : frameBytes recorder (fd, []) input with
  | error failed =>
      rw [run] at follows
      simp [follows.1]
  | ok next =>
      rw [run] at follows
      simp [follows.1]

/-- The call comes to an end, and it returns -1 or the length. -/
def Returns (ops : DecoderOps σ) (fd : FrameDecoder) (user : σ)
    (input : List UInt8) : Prop :=
  ∃ outcome,
    checkedFrameProc ops (2 * input.length) fd user input = some outcome ∧
      (frameDecoderReturn outcome = -1 ∨
        frameDecoderReturn outcome = input.length)

theorem returns_iff_consumed {fd : FrameDecoder} (splitting : Splitting fd)
    (buffer : 0 < fd.pd.bufLength) (ops : DecoderOps σ) (user : σ)
    (input : List UInt8) :
    Returns ops fd user input ↔
      (frameDecoderProc ops fd user input).consumed = none ∨
        input.length < 2 ^ 31 ∨ input.length % 2 ^ 32 = 2 ^ 32 - 1 := by
  have ends := checkedFrameProc_eq ops user splitting buffer
    (Nat.add_le_add_left (unreported_le fd.pd) (2 * input.length))
  have outcome : Returns ops fd user input ↔
      frameDecoderReturn (frameDecoderProc ops fd user input) = -1 ∨
        frameDecoderReturn (frameDecoderProc ops fd user input) =
          input.length := by
    simp only [Returns, ends, Option.some.injEq, exists_eq_left']
  rw [outcome]
  cases consumed : (frameDecoderProc ops fd user input).consumed with
  | none => simp [frameDecoderReturn, consumed]
  | some count =>
      have whole := frameDecoderProc_consumed ops user input splitting consumed
      simp only [frameDecoderReturn, consumed, whole, reduceCtorEq, false_or,
        toInt_eq_self_iff, toInt_eq_neg_one_iff]
      exact or_comm

/--
Every call comes to an end within two rounds for each byte.  It returns -1 or
the length if and only if it stops at a wrong byte, or the length is a value
of type `int`, or it becomes -1 as one.
-/
theorem consumes_everything_iff {fd : FrameDecoder} (reachable : Reachable fd)
    (buffer : 0 < fd.pd.bufLength) (ops : DecoderOps σ) (user : σ)
    (input : List UInt8) :
    (∃ outcome,
        checkedFrameProc ops (2 * input.length) fd user input =
          some outcome) ∧
      (Returns ops fd user input ↔
        HasWrongMagic fd input ∨ input.length < 2 ^ 31 ∨
          input.length % 2 ^ 32 = 2 ^ 32 - 1) := by
  have splitting := splitting_of_reachable reachable
  constructor
  · refine ⟨_, checkedFrameProc_eq ops user splitting buffer ?_⟩
    exact Nat.add_le_add_left (unreported_le fd.pd) _
  · rw [← consumed_eq_none_iff ops user input splitting]
    exact returns_iff_consumed splitting buffer ops user input

/-- A packet without data at the end of a frame, and another frame. -/
def twoFrames : List UInt8 :=
  [0xd0, 0x02, 0xa1, 0xa0, 0x00, 0x00, 0x00, 0x05, 0xd0, 0x00, 0xa1, 0xa1]

/-- The round that reports the packet consumes nothing. -/
theorem consumes_everything_iff_twoFrames :
    Returns recorder (zeroed 8203) [] twoFrames := by
  have reachable : Reachable (zeroed 8203) := .init _ _ _
  have returns := consumes_everything_iff reachable (by decide) recorder []
    twoFrames
  exact returns.2.mpr (.inr (.inl (by decide)))

/-! ## A long buffer -/

/-- The decoder is not in an SDRAM frame. -/
def OutsideSdram (fd : FrameDecoder) : Prop :=
  fd.state ≠ .needSdramFrameLength ∧ fd.state ≠ .needSdramFrameData

theorem frameByte_busMagic (ops : DecoderOps σ) {fd : FrameDecoder}
    (user : σ) (outside : OutsideSdram fd) :
    ∃ next, frameByte ops (fd, user) 0x55 = .ok next ∧
      OutsideSdram next.1 := by
  unfold OutsideSdram at outside ⊢
  rw [frameByte, if_neg outside.2]
  unfold frameHeaderByte
  cases state : fd.state <;> simp_all

/-- Bus frames may consist of the magic byte alone. -/
theorem frameBytes_busMagic (ops : DecoderOps σ)
    {current : FrameDecoder × σ} (outside : OutsideSdram current.1)
    (count : Nat) :
    ∃ next, frameBytes ops current (List.replicate count 0x55) = .ok next := by
  induction count generalizing current with
  | zero => exact ⟨current, rfl⟩
  | succ count ih =>
      obtain ⟨next, step, outside'⟩ :=
        frameByte_busMagic ops current.2 outside
      obtain ⟨last, run⟩ := ih outside'
      refine ⟨last, ?_⟩
      rw [List.replicate_succ, frameBytes_cons, step]
      exact run

theorem returns_busMagic_iff (count : Nat) :
    Returns recorder (zeroed 8203) [] (List.replicate count 0x55) ↔
      count < 2 ^ 31 ∨ count % 2 ^ 32 = 2 ^ 32 - 1 := by
  have splitting : Splitting (zeroed 8203) := splitting_init _ _ _
  have outside : OutsideSdram (zeroed 8203) := ⟨by decide, by decide⟩
  obtain ⟨next, run⟩ : ∃ next, frameBytes recorder (zeroed 8203, [])
      (List.replicate count 0x55) = .ok next :=
    frameBytes_busMagic recorder outside count
  have follows := frameDecoderProc_frameBytes recorder (zeroed 8203) []
    (List.replicate count 0x55) splitting
  rw [run] at follows
  have whole := returns_iff_consumed splitting (by decide) recorder []
    (List.replicate count 0x55)
  rw [whole, follows.1, List.length_replicate]
  simp only [reduceCtorEq, false_or]

/-- Nothing is wrong with the buffer, but its length is no `int`. -/
theorem length_not_returned :
    ¬ Returns recorder (zeroed 8203) [] (List.replicate (2 ^ 31) 0x55) := by
  rw [returns_busMagic_iff]
  omega

end OpenVizsla.Decoder.Termination
