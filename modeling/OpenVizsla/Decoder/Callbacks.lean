import OpenVizsla.Decoder.ByteMachine

/-!
# The callbacks of a decoder call

The decoders never look at the state of their client.  A call therefore makes
the same callbacks for every client, and the client ends in the state to which
these callbacks lead it.  `recorder` is the client that only lists them.
-/

namespace OpenVizsla.Decoder.Callbacks

open OpenVizsla.Decoder.Packet
open OpenVizsla.Decoder.PacketProc
open OpenVizsla.Decoder.FrameProc
open OpenVizsla.Decoder.Invariant
open OpenVizsla.Decoder.ByteMachine

variable {σ τ : Type*}

/-- A call of one of the functions in `struct decoder_ops`. -/
inductive Callback where
  | packet (complete : OvPacket)
  | busFrame (addr : UInt16) (value : UInt8)
deriving DecidableEq, Repr

/-- The client that lists its callbacks. -/
def recorder : DecoderOps (List Callback) where
  packet := some fun calls packet => calls ++ [.packet packet]
  busFrame := some fun calls addr value => calls ++ [.busFrame addr value]

/-- What one callback does to a client. -/
def Callback.apply (ops : DecoderOps σ) (user : σ) : Callback → σ
  | .packet complete => reportPacket ops complete user
  | .busFrame addr value => reportBusFrame ops addr value user

/-- What a list of callbacks does to a client. -/
def replay (ops : DecoderOps σ) (user : σ) (calls : List Callback) : σ :=
  calls.foldl (Callback.apply ops) user

theorem replay_append (ops : DecoderOps σ) (user : σ)
    (first second : List Callback) :
    replay ops user (first ++ second) =
      replay ops (replay ops user first) second :=
  List.foldl_append

/-- The callbacks of `frame_decoder_proc`, in order. -/
def callbacks (fd : FrameDecoder) (input : List UInt8) : List Callback :=
  (frameDecoderProc recorder fd [] input).user

/-! ## Invariants of clients -/

section Preservation

variable (Invariant : σ → Prop) (ops : DecoderOps σ)

theorem packetDecoderProc_preserves
    (packet : ∀ complete user,
      Invariant user → Invariant (reportPacket ops complete user))
    (pd : PacketDecoder) {user : σ} (input : List UInt8)
    (initial : Invariant user) :
    Invariant (packetDecoderProc ops pd user input).user := by
  induction input generalizing pd with
  | nil => exact initial
  | cons byte rest ih =>
      simp only [packetDecoderProc, packetDataBytes]
      split
      · split
        · exact packet _ _ initial
        · exact initial
      · cases packetHeaderByte pd byte with
        | error failed => exact initial
        | ok next => exact ih next

/-- A byte of a frame header makes at most one call. -/
theorem frameHeaderByte_user {fd next : FrameDecoder} {user user' : σ}
    {byte : UInt8}
    (accepted : frameHeaderByte ops fd user byte = .ok (next, user')) :
    user' = user ∨ user' = reportBusFrame ops fd.word fd.value user := by
  unfold frameHeaderByte at accepted
  cases state : fd.state <;> simp only [state] at accepted
  case needFrameMagic =>
    split at accepted
    · cases accepted
      exact .inl rfl
    · split at accepted <;> cases accepted
      exact .inl rfl
  case needBusFrameChecksum =>
    cases accepted
    exact .inr rfl
  all_goals
    cases accepted
    exact .inl rfl

/-- A byte of a frame header leaves the packet decoder alone. -/
theorem pd_frameHeaderByte {fd next : FrameDecoder} {user user' : σ}
    {byte : UInt8}
    (accepted : frameHeaderByte ops fd user byte = .ok (next, user')) :
    next.pd = fd.pd := by
  unfold frameHeaderByte at accepted
  cases state : fd.state <;> simp only [state] at accepted
  case needFrameMagic =>
    split at accepted
    · cases accepted
      rfl
    · split at accepted <;> cases accepted
      rfl
  all_goals
    cases accepted
    rfl

/-- What every callback preserves is preserved by a call. -/
theorem frameDecoderProc_preserves
    (packet : ∀ complete user,
      Invariant user → Invariant (reportPacket ops complete user))
    (busFrame : ∀ addr value user,
      Invariant user → Invariant (reportBusFrame ops addr value user))
    (fd : FrameDecoder) {user : σ} (input : List UInt8)
    (initial : Invariant user) :
    Invariant (frameDecoderProc ops fd user input).user := by
  fun_induction frameDecoderProc ops fd user input with
  | case1 fd user => exact initial
  | case2 fd user byte rest data inner failed =>
      exact packetDecoderProc_preserves Invariant ops packet fd.pd _ initial
  | case3 fd user byte rest data inner count consumed ih =>
      exact ih
        (packetDecoderProc_preserves Invariant ops packet fd.pd _ initial)
  | case4 fd user byte rest header failed rejected => exact initial
  | case5 fd user byte rest header next user' accepted ih =>
      apply ih
      rcases frameHeaderByte_user ops accepted with same | reported
      · rw [same]
        exact initial
      · rw [reported]
        exact busFrame _ _ _ initial

end Preservation

/-! ## Clients do not influence the decoder -/

/-- Two clients whose callbacks keep the relation `R`. -/
structure Simulates (R : σ → τ → Prop) (left : DecoderOps σ)
    (right : DecoderOps τ) : Prop where
  packet (packet : OvPacket) (user : σ) (user' : τ) :
    R user user' →
      R (reportPacket left packet user) (reportPacket right packet user')
  busFrame (addr : UInt16) (value : UInt8) (user : σ) (user' : τ) :
    R user user' →
      R (reportBusFrame left addr value user)
        (reportBusFrame right addr value user')

/-- The same decoder, and related clients. -/
def SameDecoder (R : σ → τ → Prop) (left : δ × σ) (right : δ × τ) : Prop :=
  left.1 = right.1 ∧ R left.2 right.2

/-- The same verdict, the same decoder, and related clients. -/
inductive SameRun (R : σ → τ → Prop) :
    Except (δ × σ) (δ × σ) → Except (δ × τ) (δ × τ) → Prop where
  | error (same : SameDecoder R left right) :
      SameRun R (.error left) (.error right)
  | ok (same : SameDecoder R left right) :
      SameRun R (.ok left) (.ok right)

section Simulation

variable {R : σ → τ → Prop} {left : DecoderOps σ} {right : DecoderOps τ}

theorem sameDecoder_settle (simulates : Simulates R left right)
    {current : PacketDecoder × σ} {current' : PacketDecoder × τ}
    (same : SameDecoder R current current') :
    SameDecoder R (settle left current) (settle right current') := by
  obtain ⟨pd, user⟩ := current
  obtain ⟨pd', user'⟩ := current'
  obtain ⟨rfl, related⟩ := same
  unfold settle
  split
  · exact ⟨rfl, simulates.packet _ _ _ related⟩
  · exact ⟨rfl, related⟩

theorem sameRun_settledByte (simulates : Simulates R left right)
    {current : PacketDecoder × σ} {current' : PacketDecoder × τ}
    (byte : UInt8) (same : SameDecoder R current current') :
    SameRun R (settledByte left current byte)
      (settledByte right current' byte) := by
  obtain ⟨pd, user⟩ := current
  obtain ⟨pd', user'⟩ := current'
  obtain ⟨rfl, related⟩ := same
  unfold settledByte
  split
  · exact .ok (sameDecoder_settle simulates ⟨rfl, related⟩)
  · cases packetHeaderByte pd byte with
    | error failed => exact .error ⟨rfl, related⟩
    | ok next => exact .ok ⟨rfl, related⟩

theorem sameRun_frameByte (simulates : Simulates R left right)
    {current : FrameDecoder × σ} {current' : FrameDecoder × τ}
    (byte : UInt8) (same : SameDecoder R current current') :
    SameRun R (frameByte left current byte)
      (frameByte right current' byte) := by
  obtain ⟨fd, user⟩ := current
  obtain ⟨fd', user'⟩ := current'
  obtain ⟨rfl, related⟩ := same
  change R user user' at related
  unfold frameByte
  by_cases data : fd.state = .needSdramFrameData
  · simp only [data, if_true]
    have settled : SameDecoder R (settle left (fd.pd, user))
        (settle right (fd.pd, user')) :=
      sameDecoder_settle simulates ⟨rfl, related⟩
    have inner := sameRun_settledByte simulates byte settled
    unfold packetByte
    revert inner
    generalize settledByte left (settle left (fd.pd, user)) byte = leftRun
    generalize settledByte right (settle right (fd.pd, user')) byte =
      rightRun
    intro inner
    cases inner with
    | error same => exact .error ⟨by rw [same.1], same.2⟩
    | ok same => exact .ok ⟨by rw [same.1], same.2⟩
  · simp only [data, if_false]
    have unchanged (next : FrameDecoder) :
        SameDecoder R (next, user) (next, user') :=
      ⟨rfl, related⟩
    unfold frameHeaderByte
    cases fd.state <;> simp only
    case needFrameMagic =>
      by_cases bus : byte = 0x55
      · simp only [if_pos bus]
        exact .ok (unchanged _)
      · by_cases sdram : byte = 0xd0
        · simp only [if_neg bus, if_pos sdram]
          exact .ok (unchanged _)
        · simp only [if_neg bus, if_neg sdram]
          exact .error (unchanged _)
    case needBusFrameChecksum =>
      exact .ok ⟨rfl, simulates.busFrame _ _ _ _ related⟩
    all_goals exact .ok (unchanged _)

theorem sameRun_frameBytes (simulates : Simulates R left right)
    {current : FrameDecoder × σ} {current' : FrameDecoder × τ}
    (input : List UInt8) (same : SameDecoder R current current') :
    SameRun R (frameBytes left current input)
      (frameBytes right current' input) := by
  induction input generalizing current current' with
  | nil => exact .ok same
  | cons byte rest ih =>
      have head := sameRun_frameByte simulates byte same
      rw [frameBytes_cons, frameBytes_cons]
      revert head
      generalize frameByte left current byte = leftRun
      generalize frameByte right current' byte = rightRun
      intro head
      cases head with
      | error same => exact .error same
      | ok same => exact ih same

/-- Two clients see the same call of the frame decoder. -/
theorem frameDecoderProc_simulates (simulates : Simulates R left right)
    {fd : FrameDecoder} (user : σ) (user' : τ) (input : List UInt8)
    (splitting : Splitting fd) (related : R user user') :
    (frameDecoderProc left fd user input).consumed =
        (frameDecoderProc right fd user' input).consumed ∧
      R (frameDecoderProc left fd user input).user
        (frameDecoderProc right fd user' input).user ∧
      (frameDecoderProc left fd user input).processor.pd =
        (frameDecoderProc right fd user' input).processor.pd ∧
      ((frameDecoderProc left fd user input).consumed ≠ none →
        (frameDecoderProc left fd user input).processor =
          (frameDecoderProc right fd user' input).processor) := by
  have leftFollows := frameDecoderProc_frameBytes left fd user input splitting
  have rightFollows :=
    frameDecoderProc_frameBytes right fd user' input splitting
  have run : SameRun R (frameBytes left (fd, user) input)
      (frameBytes right (fd, user') input) :=
    sameRun_frameBytes simulates input ⟨rfl, related⟩
  revert run leftFollows rightFollows
  generalize frameBytes left (fd, user) input = leftRun
  generalize frameBytes right (fd, user') input = rightRun
  intro leftFollows rightFollows run
  cases run with
  | error same =>
      obtain ⟨leftConsumed, leftUser, leftPd⟩ := leftFollows
      obtain ⟨rightConsumed, rightUser, rightPd⟩ := rightFollows
      rw [leftConsumed, rightConsumed, leftUser, rightUser, leftPd, rightPd]
      exact ⟨rfl, same.2, congrArg FrameDecoder.pd same.1,
        fun succeeded => absurd rfl succeeded⟩
  | ok same =>
      obtain ⟨leftConsumed, leftUser, leftNext⟩ := leftFollows
      obtain ⟨rightConsumed, rightUser, rightNext⟩ := rightFollows
      rw [leftConsumed, rightConsumed, leftUser, rightUser, leftNext,
        rightNext]
      exact ⟨rfl, same.2, congrArg FrameDecoder.pd same.1, fun _ => same.1⟩

end Simulation

/-- Every client follows the recorder. -/
theorem simulates_recorder (ops : DecoderOps σ) (user : σ) :
    Simulates (fun final calls => final = replay ops user calls) ops
      recorder where
  packet packet final calls related := by
    subst related
    exact (replay_append ops user calls [.packet packet]).symm
  busFrame addr value final calls related := by
    subst related
    exact (replay_append ops user calls [.busFrame addr value]).symm

/-- A call leads its client along the callbacks of the call. -/
theorem frameDecoderProc_replay (ops : DecoderOps σ) {fd : FrameDecoder}
    (user : σ) (input : List UInt8) (splitting : Splitting fd) :
    (frameDecoderProc ops fd user input).user =
      replay ops user (callbacks fd input) :=
  (frameDecoderProc_simulates (simulates_recorder ops user) user [] input
    splitting rfl).2.1

/-- The verdict and the decoder do not depend on the client. -/
theorem frameDecoderProc_client (ops : DecoderOps σ) {fd : FrameDecoder}
    (user : σ) (input : List UInt8) (splitting : Splitting fd) :
    (frameDecoderProc ops fd user input).consumed =
        (frameDecoderProc recorder fd [] input).consumed ∧
      (frameDecoderProc ops fd user input).processor.pd =
        (frameDecoderProc recorder fd [] input).processor.pd ∧
      ((frameDecoderProc ops fd user input).consumed ≠ none →
        (frameDecoderProc ops fd user input).processor =
          (frameDecoderProc recorder fd [] input).processor) := by
  obtain ⟨consumed, -, pd, processor⟩ :=
    frameDecoderProc_simulates (simulates_recorder ops user) user [] input
      splitting rfl
  exact ⟨consumed, pd, processor⟩

end OpenVizsla.Decoder.Callbacks
