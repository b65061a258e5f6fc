import OpenVizsla.Decoder.WireDecoding
import OpenVizsla.Capture.Loop
import OpenVizsla.Device.Transaction

/-!
# Corrupted bus frames

Bus frames are received in two places.  `cha_transaction` reads five bytes and
compares the last one with the sum of the others; the frame decoder takes them
one by one, stores the last one and reports the frame whatever it is.
-/

namespace OpenVizsla.Capture.Corruption

open OpenVizsla.Foundation.Streaming
open OpenVizsla.Register.Message
open OpenVizsla.Decoder.PacketProc
open OpenVizsla.Decoder.FrameProc
open OpenVizsla.Decoder.Callbacks
open OpenVizsla.Decoder.WireGrammar
open OpenVizsla.Decoder.WireDecoding
open OpenVizsla.Capture.Loop
open OpenVizsla.Device.State
open OpenVizsla.Device.Cha
open OpenVizsla.Device.Transaction

/-! ## Bytes outside SDRAM frames -/

section Headers

variable {σ : Type*} {ops : DecoderOps σ}

/-- The decoder accepts the bytes without looking into an SDRAM frame. -/
inductive Headers (ops : DecoderOps σ) :
    FrameDecoder × σ → List UInt8 → FrameDecoder × σ → Prop
  | nil (current : FrameDecoder × σ) : Headers ops current [] current
  | cons {fd : FrameDecoder} {user : σ} {next finish : FrameDecoder × σ}
      {byte : UInt8} {rest : List UInt8}
      (header : fd.state ≠ .needSdramFrameData)
      (accepted : frameHeaderByte ops fd user byte = .ok next)
      (following : Headers ops next rest finish) :
      Headers ops (fd, user) (byte :: rest) finish

theorem Headers.split {start finish : FrameDecoder × σ}
    {left right : List UInt8}
    (headers : Headers ops start (left ++ right) finish) :
    ∃ middle, Headers ops start left middle ∧
      Headers ops middle right finish := by
  induction left generalizing start with
  | nil => exact ⟨start, .nil start, headers⟩
  | cons byte left ih =>
      cases headers with
      | cons header accepted following =>
          rcases ih following with ⟨middle, first, second⟩
          exact ⟨middle, .cons header accepted first, second⟩

/-- One call. -/
theorem Headers.call {fd : FrameDecoder} {user : σ}
    {bytes : List UInt8} {finish : FrameDecoder × σ}
    (headers : Headers ops (fd, user) bytes finish) :
    (frameDecoderProc ops fd user bytes).consumed = some bytes.length ∧
      (frameDecoderProc ops fd user bytes).processor = finish.1 ∧
      (frameDecoderProc ops fd user bytes).user = finish.2 := by
  induction bytes generalizing fd user with
  | nil =>
      cases headers
      rw [frameDecoderProc]
      exact ⟨rfl, rfl, rfl⟩
  | cons byte rest ih =>
      cases headers with
      | cons header accepted following =>
          rcases ih following with ⟨consumed, processor, user'⟩
          rw [frameDecoderProc_of_header ops rest header accepted]
          refine ⟨?_, processor, user'⟩
          rw [Outcome.after_consumed, consumed, Option.map_some,
            List.length_cons, Nat.add_comm]

/-- Any number of calls. -/
theorem Headers.calls {fd : FrameDecoder} {user : σ}
    {pieces : List (List UInt8)} {finish : FrameDecoder × σ}
    (headers : Headers ops (fd, user) pieces.flatten finish) :
    (feed (frameDecoderProc ops) fd user pieces).user = finish.2 := by
  induction pieces generalizing fd user with
  | nil =>
      cases headers
      rfl
  | cons piece pieces ih =>
      rw [List.flatten_cons] at headers
      rcases headers.split with ⟨middle, first, second⟩
      rcases first.call with ⟨consumed, processor, user'⟩
      rw [feed, Outcome.andThen_of_consumed consumed, processor,
        user']
      exact ih second

end Headers

/-! ## Bus frames -/

/-- A bus frame of any content. -/
structure BusFrame where
  addrHi : UInt8
  addrLo : UInt8
  value : UInt8
  checksum : UInt8
deriving DecidableEq, Repr

namespace BusFrame

def encode (frame : BusFrame) : List UInt8 :=
  [0x55, frame.addrHi, frame.addrLo, frame.value, frame.checksum]

def addr (frame : BusFrame) : UInt16 :=
  busAddr frame.addrHi frame.addrLo

/-- The last byte is the sum of the others, modulo 256. -/
def Summed (frame : BusFrame) : Prop :=
  frame.checksum.toNat =
    (0x55 + frame.addrHi.toNat + frame.addrLo.toNat + frame.value.toNat) %
      256

instance (frame : BusFrame) : Decidable frame.Summed :=
  inferInstanceAs (Decidable (_ = _))

end BusFrame

/-- The decoder gets to the end of the frame and reports it. -/
theorem headers_bus {σ : Type*} (ops : DecoderOps σ) {fd : FrameDecoder}
    (boundary : fd.state = .needFrameMagic) (user : σ) (frame : BusFrame) :
    Headers ops (fd, user) frame.encode
      ({ fd with
          state := .needFrameMagic
          word := frame.addr
          value := frame.value
          checksum := frame.checksum },
        reportBusFrame ops frame.addr frame.value user) := by
  have magic : frameHeaderByte ops fd user 0x55 =
      .ok ({ fd with state := .needBusFrameAddrHi }, user) := by
    simp [frameHeaderByte, boundary]
  rw [BusFrame.addr, ← busAddr_eq]
  apply Headers.cons (by simp [boundary]) magic
  -- the other bytes are accepted by reduction
  refine .cons ?_ rfl (.cons ?_ rfl (.cons ?_ rfl (.cons ?_ rfl (.nil _))))
  all_goals simp

/-- Whatever its checksum is, and whatever the pieces are. -/
theorem feed_bus {σ : Type*} (ops : DecoderOps σ) {fd : FrameDecoder}
    (boundary : fd.state = .needFrameMagic) (user : σ) {frame : BusFrame}
    {pieces : List (List UInt8)} (whole : pieces.flatten = frame.encode) :
    (feed (frameDecoderProc ops) fd user pieces).user =
      reportBusFrame ops frame.addr frame.value user := by
  have headers := headers_bus ops boundary user frame
  rw [← whole] at headers
  exact headers.calls

/-! ## The two rules -/

/-- The decoder reports the frame. -/
def Reports (fd : FrameDecoder) (frame : BusFrame)
    (pieces : List (List UInt8)) : Prop :=
  .busFrame frame.addr frame.value ∈
    (feed (frameDecoderProc recorder) fd [] pieces).user

/-- `cha_transaction` takes the frame for the response. -/
def Accepts (addr : UInt16) (inVal : UInt8) (memory : Memory)
    (frame : BusFrame) : Prop :=
  ((chaTransaction addr inVal).run memory
      [counted 5, delivered frame.encode]).ending = .returned frame.value

/-- A capture loop is told that the device has stopped. -/
def TellsOff {υ : Type} (fd : FrameDecoder) (loop : LoopControl υ)
    (pieces : List (List UInt8)) : Prop :=
  (feed (frameDecoderProc decoderOps) fd loop pieces).user.state =
    .hostReadOff

/-- The frame is treated in both places as its checksum demands. -/
structure SameRule (fd : FrameDecoder) (frame : BusFrame)
    (pieces : List (List UInt8)) : Prop where
  reports : Reports fd frame pieces ↔ frame.Summed
  accepts : ∀ addr inVal memory,
    Accepts addr inVal memory frame ↔ frame.Summed
  spares : ¬ frame.Summed → ∀ {υ : Type} (loop : LoopControl υ),
    loop.state ≠ .hostReadOff → ¬ TellsOff fd loop pieces

theorem reports_bus {fd : FrameDecoder}
    (boundary : fd.state = .needFrameMagic) {frame : BusFrame}
    {pieces : List (List UInt8)} (whole : pieces.flatten = frame.encode) :
    Reports fd frame pieces := by
  rw [Reports, feed_bus recorder boundary [] whole]
  exact List.mem_singleton_self _

theorem summed_iff (frame : BusFrame) :
    frame.Summed ↔
      chaTransactionChecksum (frame.encode.take 4) = frame.checksum := by
  have sum : (chaTransactionChecksum (frame.encode.take 4)).toNat =
      (0x55 + frame.addrHi.toNat + frame.addrLo.toNat + frame.value.toNat) %
        256 := by
    simp [chaTransactionChecksum, BusFrame.encode]
  rw [BusFrame.Summed, ← sum, UInt8.toNat_inj, eq_comm]

theorem accepts_iff (addr : UInt16) (inVal : UInt8) (memory : Memory)
    (frame : BusFrame) : Accepts addr inVal memory frame ↔ frame.Summed := by
  have last : frame.encode.getD 4 0 = frame.checksum := rfl
  have value : frame.encode.getD 3 0 = frame.value := rfl
  rw [summed_iff, Accepts, chaTransaction_whole _ _ rfl, last, value]
  by_cases same :
      chaTransactionChecksum (frame.encode.take 4) = frame.checksum
  · rw [if_pos same]
    exact iff_of_true rfl same
  · rw [if_neg same]
    exact iff_of_false nofun same

/--
Both receivers apply the same rule to a frame exactly when its checksum is
right.
-/
theorem sameRule_iff {fd : FrameDecoder}
    (boundary : fd.state = .needFrameMagic) {frame : BusFrame}
    {pieces : List (List UInt8)} (whole : pieces.flatten = frame.encode) :
    SameRule fd frame pieces ↔ frame.Summed := by
  constructor
  · intro same
    exact same.reports.mp (reports_bus boundary whole)
  · intro summed
    constructor
    · exact iff_of_true (reports_bus boundary whole) summed
    · exact fun addr inVal memory => accepts_iff addr inVal memory frame
    · exact fun corrupted => absurd summed corrupted

/-- A frame whose first three bytes come in one piece. -/
theorem sameRule_echo :
    SameRule (zeroed 16) ⟨0x80, 0x00, 0x01, 0xd6⟩
      [[0x55, 0x80, 0x00], [], [0x01, 0xd6]] :=
  (sameRule_iff rfl rfl).mpr (by decide)

/-- The echo of the halt command, with a wrong checksum. -/
def corruptEcho : BusFrame :=
  ⟨0x80, 0x00, 0x00, 0x00⟩

/-- A capture that waits for it, with a register map of zeros. -/
def waiting : LoopControl Unit where
  reg := ⟨none, fun _ => 0⟩
  errorStr := none
  transfer := fun _ => ⟨false, false⟩
  activeTransfers := 0
  callback := none
  userData := ()
  count := 0
  maxCount := 0
  state := .running
  complete := false
  delivered := []

/-- The corrupted echo ends the capture. -/
theorem corruptEcho_tellsOff :
    ¬ SameRule (zeroed 16) corruptEcho [corruptEcho.encode] := by
  intro same
  have corrupted : ¬ corruptEcho.Summed := by decide
  refine same.spares corrupted waiting nofun ?_
  rw [TellsOff, feed_bus decoderOps rfl waiting (List.append_nil _)]
  rfl

end OpenVizsla.Capture.Corruption
