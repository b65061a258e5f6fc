import OpenVizsla.Decoder.Invariant

/-!
# The decoders as byte machines

The decoders of the source work on buffers: the inner one copies data in bulk
and returns early, the outer one restarts it.  `packetByte` and `frameByte`
say what the same decoders do with a single byte.

A packet without data is complete with its last timestamp byte, but it is
reported only when the next payload byte arrives.  `settle` is that delayed
report; it precedes every payload byte, and it is the only way in which
`packetDecoderProc` can be ahead of the byte machine.

`frameDecoderProc_frameBytes` is the refinement: on a state that satisfies the
invariant, a call of `frameDecoderProc` is the run of the byte machine.
-/

namespace OpenVizsla.Decoder.ByteMachine

open OpenVizsla.Foundation.Streaming
open OpenVizsla.Decoder.Packet
open OpenVizsla.Decoder.PacketProc
open OpenVizsla.Decoder.FrameProc
open OpenVizsla.Decoder.Invariant

variable {σ : Type*}

/-! ## The machines -/

/-- Report the open packet if nothing of it is missing. -/
def settle (ops : DecoderOps σ) (current : PacketDecoder × σ) :
    PacketDecoder × σ :=
  if current.1.state = .needPacketData ∧ requiredLength current.1 = 0 then
    (restart current.1, reportPacket ops current.1.packet current.2)
  else
    current

/-- One byte after the open packet has been settled. -/
def settledByte (ops : DecoderOps σ) (current : PacketDecoder × σ)
    (byte : UInt8) :
    Except (PacketDecoder × σ) (PacketDecoder × σ) :=
  if current.1.state = .needPacketData then
    .ok (settle ops (copyData current.1 [byte], current.2))
  else
    match packetHeaderByte current.1 byte with
    | .error failed => .error (failed, current.2)
    | .ok next => .ok (next, current.2)

/-- What the packet decoder does with one payload byte. -/
def packetByte (ops : DecoderOps σ) (current : PacketDecoder × σ)
    (byte : UInt8) :
    Except (PacketDecoder × σ) (PacketDecoder × σ) :=
  settledByte ops (settle ops current) byte

/-- The run of the packet machine. -/
def packetBytes (ops : DecoderOps σ) (current : PacketDecoder × σ)
    (input : List UInt8) :
    Except (PacketDecoder × σ) (PacketDecoder × σ) :=
  input.foldlM (packetByte ops) current

/-- What the frame decoder does with one byte. -/
def frameByte (ops : DecoderOps σ) (current : FrameDecoder × σ)
    (byte : UInt8) :
    Except (FrameDecoder × σ) (FrameDecoder × σ) :=
  if current.1.state = .needSdramFrameData then
    match packetByte ops (current.1.pd, current.2) byte with
    | .error (failed, user) => .error ({ current.1 with pd := failed }, user)
    | .ok (pd, user) => .ok (consumePayload current.1 pd 1, user)
  else
    match frameHeaderByte ops current.1 current.2 byte with
    | .error failed => .error (failed, current.2)
    | .ok next => .ok next

/-- The run of the frame machine. -/
def frameBytes (ops : DecoderOps σ) (current : FrameDecoder × σ)
    (input : List UInt8) :
    Except (FrameDecoder × σ) (FrameDecoder × σ) :=
  input.foldlM (frameByte ops) current

@[simp]
theorem packetBytes_nil (ops : DecoderOps σ) (current : PacketDecoder × σ) :
    packetBytes ops current [] = .ok current :=
  rfl

@[simp]
theorem frameBytes_nil (ops : DecoderOps σ) (current : FrameDecoder × σ) :
    frameBytes ops current [] = .ok current :=
  rfl

theorem packetBytes_cons (ops : DecoderOps σ) (current : PacketDecoder × σ)
    (byte : UInt8) (rest : List UInt8) :
    packetBytes ops current (byte :: rest) =
      (packetByte ops current byte).bind fun next =>
        packetBytes ops next rest :=
  rfl

theorem frameBytes_cons (ops : DecoderOps σ) (current : FrameDecoder × σ)
    (byte : UInt8) (rest : List UInt8) :
    frameBytes ops current (byte :: rest) =
      (frameByte ops current byte).bind fun next =>
        frameBytes ops next rest :=
  rfl

theorem frameBytes_append (ops : DecoderOps σ)
    (current : FrameDecoder × σ) (left right : List UInt8) :
    frameBytes ops current (left ++ right) =
      (frameBytes ops current left).bind fun next =>
        frameBytes ops next right := by
  simp only [frameBytes, List.foldlM_append]
  rfl

/-! ## Settling -/

theorem settle_of_pending (ops : DecoderOps σ) {pd : PacketDecoder}
    (user : σ) (data : pd.state = .needPacketData)
    (required : requiredLength pd = 0) :
    settle ops (pd, user) =
      (restart pd, reportPacket ops pd.packet user) := by
  simp [settle, data, required]

theorem settle_of_required (ops : DecoderOps σ) {pd : PacketDecoder}
    (user : σ) (required : requiredLength pd ≠ 0) :
    settle ops (pd, user) = (pd, user) := by
  simp [settle, required]

theorem settle_of_header (ops : DecoderOps σ) {pd : PacketDecoder}
    (user : σ) (header : pd.state ≠ .needPacketData) :
    settle ops (pd, user) = (pd, user) := by
  simp [settle, header]

theorem settle_settle (ops : DecoderOps σ) (current : PacketDecoder × σ) :
    settle ops (settle ops current) = settle ops current := by
  obtain ⟨pd, user⟩ := current
  by_cases pending : pd.state = .needPacketData ∧ requiredLength pd = 0
  · rw [settle_of_pending ops user pending.1 pending.2]
    exact settle_of_header ops _ (by simp [restart])
  · have unchanged : settle ops (pd, user) = (pd, user) := if_neg pending
    rw [unchanged, unchanged]

/-- A payload byte does not see whether the open packet was settled before. -/
theorem packetByte_settle (ops : DecoderOps σ) (current : PacketDecoder × σ)
    (byte : UInt8) :
    packetByte ops (settle ops current) byte =
      packetByte ops current byte := by
  rw [packetByte, settle_settle, packetByte]

theorem assembling_settle (ops : DecoderOps σ)
    {current : PacketDecoder × σ} (assembling : Assembling current.1) :
    Assembling (settle ops current).1 := by
  unfold settle
  split
  · exact assembling_restart _
  · exact assembling

/-- After settling, data is missing whenever data is expected. -/
theorem requiredLength_settle_ne_zero (ops : DecoderOps σ)
    (current : PacketDecoder × σ)
    (data : (settle ops current).1.state = .needPacketData) :
    requiredLength (settle ops current).1 ≠ 0 := by
  intro required
  have settled := settle_settle ops current
  rw [← settled] at data
  rw [settle, if_pos ⟨settled ▸ data, required⟩] at data
  simp [restart] at data

theorem assembling_packetByte {ops : DecoderOps σ} {pd : PacketDecoder}
    {user : σ} {next : PacketDecoder × σ} {byte : UInt8}
    (assembling : Assembling pd)
    (accepted : packetByte ops (pd, user) byte = .ok next) :
    Assembling next.1 := by
  have settled : Assembling (settle ops (pd, user)).1 :=
    assembling_settle ops assembling
  unfold packetByte settledByte at accepted
  split at accepted
  · rename_i data
    have required := requiredLength_settle_ne_zero ops (pd, user) data
    cases accepted
    apply assembling_settle
    apply assembling_copyData settled data
    simp only [List.length_singleton]
    omega
  · cases header : packetHeaderByte (settle ops (pd, user)).1 byte with
    | error failed => simp [header] at accepted
    | ok after =>
        simp only [header, Except.ok.injEq] at accepted
        subst accepted
        exact assembling_packetHeaderByte settled header

theorem splitting_frameByte {ops : DecoderOps σ} {fd : FrameDecoder}
    {user : σ} {next : FrameDecoder × σ} {byte : UInt8}
    (splitting : Splitting fd)
    (accepted : frameByte ops (fd, user) byte = .ok next) :
    Splitting next.1 := by
  unfold frameByte at accepted
  split at accepted
  · rename_i data
    cases step : packetByte ops (fd.pd, user) byte with
    | error failed => simp [step] at accepted
    | ok after =>
        simp only [step, Except.ok.injEq] at accepted
        subst accepted
        exact splitting_consumePayload splitting
          (assembling_packetByte splitting.assembling step)
          data (splitting.remaining data).1
  · cases header : frameHeaderByte ops fd user byte with
    | error failed => simp [header] at accepted
    | ok after =>
        simp only [header, Except.ok.injEq] at accepted
        subst accepted
        exact splitting_frameHeaderByte splitting header

theorem splitting_frameBytes {ops : DecoderOps σ}
    {current next : FrameDecoder × σ} {input : List UInt8}
    (splitting : Splitting current.1)
    (accepted : frameBytes ops current input = .ok next) :
    Splitting next.1 := by
  induction input generalizing current with
  | nil =>
      cases accepted
      exact splitting
  | cons byte rest ih =>
      rw [frameBytes_cons] at accepted
      cases step : frameByte ops current byte with
      | error failed => simp [step, Except.bind] at accepted
      | ok after =>
          simp only [step, Except.bind] at accepted
          exact ih (splitting_frameByte splitting step) accepted

/-! ## Bulk copies -/

@[simp]
theorem copyData_nil (pd : PacketDecoder) : copyData pd [] = pd := by
  simp [copyData, copyInto]

theorem copyData_copyData (pd : PacketDecoder) (left right : List UInt8) :
    copyData (copyData pd left) right = copyData pd (left ++ right) := by
  simp [copyData, copyInto_copyInto, Nat.add_assoc]

theorem requiredLength_copyData {pd : PacketDecoder} {bytes : List UInt8}
    (assembling : Assembling pd) (data : pd.state = .needPacketData)
    (fits : bytes.length ≤ requiredLength pd) :
    requiredLength (copyData pd bytes) =
      requiredLength pd - bytes.length := by
  rw [requiredLength_eq (assembling_copyData assembling data fits) data,
    requiredLength_eq assembling data,
    capturedSize_copyData]
  simp only [copyData]
  omega

/-- Data bytes are copied one by one as they are copied in bulk. -/
theorem packetBytes_data (ops : DecoderOps σ) {pd : PacketDecoder} (user : σ)
    (byte : UInt8) (rest : List UInt8) (assembling : Assembling pd)
    (data : pd.state = .needPacketData)
    (fits : (byte :: rest).length ≤ requiredLength pd) :
    packetBytes ops (pd, user) (byte :: rest) =
      .ok (settle ops (copyData pd (byte :: rest), user)) := by
  induction rest generalizing pd byte with
  | nil =>
      have required : requiredLength pd ≠ 0 := by
        simp only [List.length_singleton] at fits
        omega
      simp only [packetBytes_cons, packetByte, packetBytes_nil]
      rw [settle_of_required ops user required]
      simp [settledByte, data, Except.bind]
  | cons second rest ih =>
      simp only [List.length_cons] at fits
      have required : requiredLength pd ≠ 0 := by omega
      have first : [byte].length ≤ requiredLength pd := by
        simp only [List.length_singleton]
        omega
      have left := requiredLength_copyData assembling data first
      rw [packetBytes_cons, packetByte, settle_of_required ops user required]
      simp only [settledByte, data, if_true, Except.bind]
      rw [settle_of_required ops user (by
        simp only [left, List.length_singleton]
        omega)]
      rw [ih second (assembling_copyData assembling data first) data (by
        rw [left]
        simp only [List.length_cons, List.length_nil]
        omega)]
      rw [copyData_copyData, List.singleton_append]

/-! ## The packet decoder refines its machine -/

/-- The call copies what there is of the missing data. -/
theorem packetDecoderProc_of_data
    (ops : DecoderOps σ) {pd : PacketDecoder} (user : σ)
    {input : List UInt8} (assembling : Assembling pd)
    (data : pd.state = .needPacketData) (nonempty : input ≠ []) :
    (packetDecoderProc ops pd user input).consumed =
        some (min (requiredLength pd) input.length) ∧
      ((packetDecoderProc ops pd user input).processor,
          (packetDecoderProc ops pd user input).user) =
        settle ops
          (copyData pd (input.take (min (requiredLength pd) input.length)),
            user) := by
  cases input with
  | nil => exact absurd rfl nonempty
  | cons byte rest =>
      have length :
          ((byte :: rest).take
              (min (requiredLength pd) (rest.length + 1))).length =
            min (requiredLength pd) (rest.length + 1) := by
        rw [List.length_take, List.length_cons]
        omega
      have left := requiredLength_copyData assembling data
        (by rw [length]; exact Nat.min_le_left _ _)
      rw [length] at left
      simp only [packetDecoderProc, packetDataBytes, data, if_true,
        List.length_cons]
      split
      · refine ⟨rfl, (settle_of_pending ops user ?_ ?_).symm⟩
        · exact data
        · omega
      · refine ⟨rfl, (settle_of_required ops user ?_).symm⟩
        rw [left]
        omega

/--
How an outcome of `packetDecoderProc` relates to the run of the machine over
the consumed bytes.  If a packet without data was complete and input was left,
then the outcome has already settled it.
-/
def FollowsPacketBytes (ops : DecoderOps σ) (current : PacketDecoder × σ)
    (input : List UInt8) (outcome : Outcome PacketDecoder σ Copy) : Prop :=
  match outcome.consumed with
  | none =>
      packetBytes ops current input =
        .error (outcome.processor, outcome.user)
  | some count =>
      ∃ reached, packetBytes ops current (input.take count) = .ok reached ∧
        ((outcome.processor, outcome.user) = reached ∨
          (outcome.processor, outcome.user) = settle ops reached ∧
            count < input.length)

theorem packetDecoderProc_packetBytes
    (ops : DecoderOps σ) {pd : PacketDecoder} (user : σ)
    (input : List UInt8) (assembling : Assembling pd) :
    FollowsPacketBytes ops (pd, user) input
      (packetDecoderProc ops pd user input) := by
  induction input generalizing pd with
  | nil => exact ⟨(pd, user), rfl, .inl rfl⟩
  | cons byte rest ih =>
      by_cases data : pd.state = .needPacketData
      · by_cases required : requiredLength pd = 0
        · rw [packetDecoderProc_of_required_zero ops user byte rest data
            required]
          refine ⟨(pd, user), rfl, .inr ⟨?_, by simp⟩⟩
          rw [settle_of_pending ops user data required]
          simp
        · obtain ⟨consumed, copied⟩ :=
            packetDecoderProc_of_data ops user assembling data
              (List.cons_ne_nil byte rest)
          obtain ⟨count, positive⟩ :
              ∃ count, min (requiredLength pd) (byte :: rest).length =
                count + 1 :=
            Nat.exists_eq_succ_of_ne_zero (by simp; omega)
          rw [positive] at consumed copied
          rw [FollowsPacketBytes, consumed]
          refine ⟨_, ?_, .inl copied⟩
          rw [List.take_succ_cons]
          apply packetBytes_data ops user byte _ assembling data
          simp only [List.length_cons, List.length_take] at positive ⊢
          omega
      · have unsettled : settle ops (pd, user) = (pd, user) :=
          settle_of_header ops user data
        simp only [packetDecoderProc, packetDataBytes, data, if_false]
        cases header : packetHeaderByte pd byte with
        | error failed =>
            simp [FollowsPacketBytes, packetBytes_cons, packetByte,
              unsettled, settledByte, data, header, Except.bind]
        | ok next =>
            have head : packetByte ops (pd, user) byte = .ok (next, user) := by
              simp [packetByte, unsettled, settledByte, data, header]
            have tail := ih (assembling_packetHeaderByte assembling header)
            unfold FollowsPacketBytes at tail ⊢
            cases consumed :
                (packetDecoderProc ops next user rest).consumed with
            | none =>
                simp only [consumed] at tail
                simp [consumed, packetBytes_cons, head, Except.bind, tail]
            | some count =>
                simp only [consumed] at tail
                obtain ⟨reached, run, ahead⟩ := tail
                simp only [Outcome.after_consumed, consumed,
                  Option.map_some, Outcome.after_processor,
                  Outcome.after_user]
                refine ⟨reached, ?_, ahead.imp_right fun ahead =>
                  ⟨ahead.1, by simp only [List.length_cons]; omega⟩⟩
                rw [Nat.add_comm, List.take_succ_cons, packetBytes_cons,
                  head]
                exact run

/-! ## The frame decoder refines its machine -/

theorem payloadOf_length_le (fd : FrameDecoder) (input : List UInt8) :
    (payloadOf fd input).length ≤ fd.word.toNat := by
  simp only [payloadOf, List.length_take]
  omega

theorem payloadOf_append (fd : FrameDecoder) (input : List UInt8) :
    payloadOf fd input ++
      input.drop (min fd.word.toNat input.length) = input :=
  List.take_append_drop _ _

theorem consumePayload_zero {fd : FrameDecoder} (nonzero : fd.word ≠ 0) :
    consumePayload fd fd.pd 0 = fd := by
  simp [consumePayload, nonzero]

theorem consumePayload_consumePayload {fd : FrameDecoder}
    (first second : PacketDecoder) (count : Nat)
    (nonzero : fd.word - 1 ≠ 0) :
    consumePayload (consumePayload fd first 1) second count =
      consumePayload fd second (count + 1) := by
  have difference :
      fd.word - 1 - UInt16.ofNat count =
        fd.word - (UInt16.ofNat count + 1) := by
    grind
  simp [consumePayload, difference, nonzero]

/-- A frame with two payload bytes left stays open after one of them. -/
theorem consumePayload_open {fd : FrameDecoder} (pd : PacketDecoder)
    {count : Nat} (data : fd.state = .needSdramFrameData)
    (more : count < fd.word.toNat) :
    fd.word - UInt16.ofNat count ≠ 0 ∧
      (consumePayload fd pd count).state = .needSdramFrameData ∧
        (consumePayload fd pd count).word.toNat = fd.word.toNat - count := by
  have difference := toNat_word_sub (Nat.le_of_lt more)
  have nonzero : fd.word - UInt16.ofNat count ≠ 0 := by
    intro zero
    rw [zero] at difference
    simp at difference
    omega
  refine ⟨nonzero, ?_, difference⟩
  simp [consumePayload, nonzero, data]

/-- Payload bytes of one SDRAM frame run the packet machine. -/
theorem frameBytes_payload {ops : DecoderOps σ} {fd : FrameDecoder}
    {user user' : σ} {pd : PacketDecoder} {input : List UInt8}
    (splitting : Splitting fd) (data : fd.state = .needSdramFrameData)
    (fits : input.length ≤ fd.word.toNat)
    (run : packetBytes ops (fd.pd, user) input = .ok (pd, user')) :
    frameBytes ops (fd, user) input =
      .ok (consumePayload fd pd input.length, user') := by
  induction input generalizing fd user with
  | nil =>
      cases run
      have remaining := splitting.remaining data
      rw [frameBytes_nil, List.length_nil, consumePayload_zero]
      intro zero
      simp [zero] at remaining
  | cons byte rest ih =>
      rw [packetBytes_cons] at run
      cases step : packetByte ops (fd.pd, user) byte with
      | error failed => simp [step, Except.bind] at run
      | ok next =>
          have head : frameByte ops (fd, user) byte =
              .ok (consumePayload fd next.1 1, next.2) := by
            simp [frameByte, data, step]
          simp only [step, Except.bind] at run
          rw [frameBytes_cons, head]
          cases rest with
          | nil =>
              cases run
              rfl
          | cons second rest =>
              simp only [List.length_cons] at fits
              obtain ⟨nonzero, still, left⟩ :=
                consumePayload_open next.1 data (by omega : 1 < fd.word.toNat)
              have tail := ih (splitting_frameByte splitting head) still
                (by rw [left, List.length_cons]; omega) run
              simp only [Except.bind, tail]
              rw [consumePayload_consumePayload next.1 pd _ nonzero]
              rfl

/-- A byte that the packet machine rejects is rejected by the frame machine. -/
theorem frameBytes_payload_error {ops : DecoderOps σ} {fd : FrameDecoder}
    {user user' : σ} {failed : PacketDecoder} {input : List UInt8}
    (splitting : Splitting fd) (data : fd.state = .needSdramFrameData)
    (fits : input.length ≤ fd.word.toNat)
    (run : packetBytes ops (fd.pd, user) input = .error (failed, user')) :
    ∃ word, frameBytes ops (fd, user) input =
      .error ({ fd with pd := failed, word := word }, user') := by
  induction input generalizing fd user with
  | nil => cases run
  | cons byte rest ih =>
      rw [packetBytes_cons] at run
      cases step : packetByte ops (fd.pd, user) byte with
      | error rejected =>
          simp only [step, Except.bind, Except.error.injEq] at run
          subst run
          exact ⟨fd.word, by simp [frameBytes_cons, frameByte, data, step,
            Except.bind]⟩
      | ok next =>
          have head : frameByte ops (fd, user) byte =
              .ok (consumePayload fd next.1 1, next.2) := by
            simp [frameByte, data, step]
          simp only [step, Except.bind] at run
          cases rest with
          | nil => cases run
          | cons second rest =>
              simp only [List.length_cons] at fits
              obtain ⟨nonzero, still, left⟩ :=
                consumePayload_open next.1 data (by omega : 1 < fd.word.toNat)
              obtain ⟨word, tail⟩ :=
                ih (splitting_frameByte splitting head) still
                  (by rw [left, List.length_cons]; omega) run
              refine ⟨word, ?_⟩
              rw [frameBytes_cons, head, Except.bind, tail]
              simp only [consumePayload] at still ⊢
              rw [still, data]

/-- A payload byte does not see whether the open packet was settled before. -/
theorem frameBytes_settle (ops : DecoderOps σ) {fd : FrameDecoder} (user : σ)
    (input : List UInt8) (data : fd.state = .needSdramFrameData)
    (nonempty : input ≠ []) :
    frameBytes ops
        ({ fd with pd := (settle ops (fd.pd, user)).1 },
          (settle ops (fd.pd, user)).2) input =
      frameBytes ops (fd, user) input := by
  cases input with
  | nil => exact absurd rfl nonempty
  | cons byte rest =>
      have same : frameByte ops
          ({ fd with pd := (settle ops (fd.pd, user)).1 },
            (settle ops (fd.pd, user)).2) byte =
          frameByte ops (fd, user) byte := by
        simp only [frameByte, data, if_true]
        rw [packetByte_settle]
        simp only [consumePayload, data]
      rw [frameBytes_cons, frameBytes_cons, same]

/--
How an outcome of `frameDecoderProc` relates to the run of the machine.  After
a failure the remaining length of the frame may differ.
-/
def FollowsFrameBytes (run : Except (FrameDecoder × σ) (FrameDecoder × σ))
    (length : Nat) (outcome : Outcome FrameDecoder σ Copy) : Prop :=
  match run with
  | .error (failed, user) =>
      outcome.consumed = none ∧ outcome.user = user ∧
        outcome.processor.pd = failed.pd
  | .ok (next, user) =>
      outcome.consumed = some length ∧ outcome.user = user ∧
        outcome.processor = next

theorem FollowsFrameBytes.after
    {run : Except (FrameDecoder × σ) (FrameDecoder × σ)} {length : Nat}
    {outcome : Outcome FrameDecoder σ Copy}
    (follows : FollowsFrameBytes run length outcome)
    (count : Nat) (log : List Copy) :
    FollowsFrameBytes run (count + length) (outcome.after count log) := by
  cases run with
  | error failed =>
      obtain ⟨consumed, user, pd⟩ := follows
      exact ⟨by simp [consumed], user, pd⟩
  | ok next =>
      obtain ⟨consumed, user, processor⟩ := follows
      exact ⟨by simp [consumed], user, processor⟩

/-- A call of the frame decoder is the run of the byte machine. -/
theorem frameDecoderProc_frameBytes
    (ops : DecoderOps σ) (fd : FrameDecoder) (user : σ)
    (input : List UInt8) (splitting : Splitting fd) :
    FollowsFrameBytes (frameBytes ops (fd, user) input) input.length
      (frameDecoderProc ops fd user input) := by
  fun_induction frameDecoderProc ops fd user input with
  | case1 fd user => exact ⟨rfl, rfl, rfl⟩
  | case2 fd user byte rest data inner failed =>
      have follows := packetDecoderProc_packetBytes ops user
        (payloadOf fd (byte :: rest)) splitting.assembling
      rw [FollowsPacketBytes, failed] at follows
      obtain ⟨word, rejected⟩ :=
        frameBytes_payload_error splitting data (payloadOf_length_le fd _)
          follows
      have run : frameBytes ops (fd, user) (byte :: rest) =
          .error ({ fd with pd := inner.processor, word := word },
            inner.user) := by
        rw [← payloadOf_append fd (byte :: rest), frameBytes_append, rejected]
        rfl
      rw [run]
      exact ⟨rfl, rfl, rfl⟩
  | case3 fd user byte rest data inner count consumed ih =>
      have follows := packetDecoderProc_packetBytes ops user
        (payloadOf fd (byte :: rest)) splitting.assembling
      rw [FollowsPacketBytes, consumed] at follows
      obtain ⟨reached, run, ahead⟩ := follows
      obtain ⟨inFrame, inInput⟩ :=
        payload_consumed_le ops fd user (byte :: rest) consumed
      have taken : (payloadOf fd (byte :: rest)).take count =
          (byte :: rest).take count := by
        rw [payloadOf, List.take_take, Nat.min_eq_left (by omega)]
      have length : ((byte :: rest).take count).length = count := by
        rw [List.length_take, Nat.min_eq_left inInput]
      rw [taken] at run
      have head := frameBytes_payload splitting data
        (by rw [length]; exact inFrame) run
      rw [length] at head
      have split : frameBytes ops (fd, user) (byte :: rest) =
          frameBytes ops (consumePayload fd reached.1 count, reached.2)
            ((byte :: rest).drop count) := by
        rw [← List.take_append_drop count (byte :: rest), frameBytes_append,
          head, List.take_append_drop]
        rfl
      have same :
          frameBytes ops
              (consumePayload fd inner.processor count, inner.user)
              ((byte :: rest).drop count) =
            frameBytes ops (consumePayload fd reached.1 count, reached.2)
              ((byte :: rest).drop count) := by
        rcases ahead with current | ⟨settled, more⟩
        · rw [← current]
        · -- the settled packet is not seen by the next payload byte
          simp only [payloadOf, List.length_take] at more
          have still := (consumePayload_open reached.1 data
            (by omega : count < fd.word.toNat)).2.1
          have absorbed := frameBytes_settle ops reached.2
            ((byte :: rest).drop count) still (by
              intro empty
              have := congrArg List.length empty
              simp only [List.length_drop, List.length_nil] at this
              omega)
          rw [← absorbed]
          change _ = frameBytes ops
            (consumePayload fd (settle ops reached).1 count,
              (settle ops reached).2) _
          rw [← settled]
      have tail := ih (splitting_consumePayload splitting
        (assembling_packetDecoderProc ops user _ splitting.assembling)
        data inFrame)
      rw [same, ← split] at tail
      have total := tail.after count inner.log
      rw [List.length_drop, Nat.add_sub_cancel' inInput] at total
      exact total
  | case4 fd user byte rest header failed rejected =>
      have run : frameBytes ops (fd, user) (byte :: rest) =
          .error (failed, user) := by
        simp [frameBytes_cons, frameByte, header, rejected, Except.bind]
      rw [run]
      exact ⟨rfl, rfl, rfl⟩
  | case5 fd user byte rest header next user' accepted ih =>
      have head : frameByte ops (fd, user) byte = .ok (next, user') := by
        simp [frameByte, header, accepted]
      have tail := ih (splitting_frameHeaderByte splitting accepted)
      rw [frameBytes_cons, head, List.length_cons, Nat.add_comm]
      exact tail.after 1 []

/-- A call that does not fail consumes its whole input. -/
theorem frameDecoderProc_consumed (ops : DecoderOps σ) {fd : FrameDecoder}
    (user : σ) (input : List UInt8) (splitting : Splitting fd) {count : Nat}
    (consumed :
      (frameDecoderProc ops fd user input).consumed = some count) :
    count = input.length := by
  have follows := frameDecoderProc_frameBytes ops fd user input splitting
  cases run : frameBytes ops (fd, user) input with
  | error failed =>
      rw [run] at follows
      rw [follows.1] at consumed
      cases consumed
  | ok next =>
      rw [run] at follows
      rw [follows.1] at consumed
      cases consumed
      rfl

end OpenVizsla.Decoder.ByteMachine
