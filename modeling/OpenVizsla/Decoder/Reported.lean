import OpenVizsla.Decoder.Callbacks

/-!
# Reported packets are complete

When the decoder reports a packet, the buffer of the packet holds at least as
many bytes as have been captured.  A client may read them without looking at
the length of the buffer.
-/

namespace OpenVizsla.Decoder.Reported

open OpenVizsla.Decoder.Packet
open OpenVizsla.Decoder.PacketProc
open OpenVizsla.Decoder.FrameProc
open OpenVizsla.Decoder.Invariant
open OpenVizsla.Decoder.Callbacks

/-- The buffer of the packet holds what has been captured. -/
def Decoded (packet : OvPacket) : Prop :=
  (ovPacketCapturedSize packet).toNat ≤ packet.data.length

instance (packet : OvPacket) : Decidable (Decoded packet) :=
  inferInstanceAs (Decidable (_ ≤ _))

/-- The buffer holds what has been copied into it. -/
def Written (pd : PacketDecoder) : Prop :=
  pd.bufActualLength ≤ pd.packet.data.length

theorem written_init (packet : OvPacket) (size : Nat) :
    Written (packetDecoderInit packet size) :=
  Nat.zero_le _

/-- A byte of a packet header does not touch the buffer. -/
theorem written_packetHeaderByte {pd next : PacketDecoder} {byte : UInt8}
    (written : Written pd) (accepted : packetHeaderByte pd byte = .ok next) :
    Written next := by
  obtain ⟨-, copied, data⟩ := buffer_packetHeaderByte accepted
  rw [Written, copied, data]
  exact written

theorem length_copyInto {data : List UInt8} {offset : Nat}
    (inside : offset ≤ data.length) (bytes : List UInt8) :
    offset + bytes.length ≤ (copyInto data offset bytes).length := by
  rw [copyInto, List.length_append, List.length_append, List.length_take,
    Nat.min_eq_left inside]
  exact Nat.le_add_right _ _

theorem written_copyData {pd : PacketDecoder} (written : Written pd)
    (bytes : List UInt8) : Written (copyData pd bytes) :=
  length_copyInto written bytes

/-- A packet whose bytes have all been copied is complete. -/
theorem decoded_copyData {pd : PacketDecoder} {bytes : List UInt8}
    (assembling : Assembling pd) (written : Written pd)
    (data : pd.state = .needPacketData)
    (complete : requiredLength pd = bytes.length) :
    Decoded (copyData pd bytes).packet := by
  have copied := assembling.copied data
  have filled := written_copyData written bytes
  rw [requiredLength_eq assembling data] at complete
  change (ovPacketCapturedSize pd.packet).toNat ≤ _
  have length : (copyData pd bytes).bufActualLength =
      pd.bufActualLength + bytes.length := rfl
  rw [Written, length] at filled
  omega

section Preservation

variable (Invariant : σ → Prop) (ops : DecoderOps σ)

/-- A callback only has to keep the invariant for complete packets. -/
theorem packetDecoderProc_reports
    (packet : ∀ complete user, Decoded complete →
      Invariant user → Invariant (reportPacket ops complete user))
    {pd : PacketDecoder} {user : σ} (input : List UInt8)
    (assembling : Assembling pd) (written : Written pd)
    (initial : Invariant user) :
    Written (packetDecoderProc ops pd user input).processor ∧
      Invariant (packetDecoderProc ops pd user input).user := by
  induction input generalizing pd with
  | nil => exact ⟨written, initial⟩
  | cons byte rest ih =>
      simp only [packetDecoderProc, packetDataBytes]
      split
      · rename_i data
        split
        · rename_i complete
          constructor
          · exact Nat.zero_le _
          · refine packet _ _ ?_ initial
            refine decoded_copyData assembling written data ?_
            rw [List.length_take, List.length_cons]
            omega
        · exact ⟨written_copyData written _, initial⟩
      · cases header : packetHeaderByte pd byte with
        | error failed =>
            rw [packetHeaderByte_error header]
            exact ⟨written, initial⟩
        | ok next =>
            exact ih (assembling_packetHeaderByte assembling header)
              (written_packetHeaderByte written header)

theorem frameDecoderProc_reports
    (packet : ∀ complete user, Decoded complete →
      Invariant user → Invariant (reportPacket ops complete user))
    (busFrame : ∀ addr value user,
      Invariant user → Invariant (reportBusFrame ops addr value user))
    (fd : FrameDecoder) {user : σ} (input : List UInt8)
    (splitting : Splitting fd) (written : Written fd.pd)
    (initial : Invariant user) :
    Written (frameDecoderProc ops fd user input).processor.pd ∧
      Invariant (frameDecoderProc ops fd user input).user := by
  fun_induction frameDecoderProc ops fd user input with
  | case1 fd user => exact ⟨written, initial⟩
  | case2 fd user byte rest data inner failed =>
      exact packetDecoderProc_reports Invariant ops packet _
        splitting.assembling written initial
  | case3 fd user byte rest data inner count consumed ih =>
      obtain ⟨written', initial'⟩ := packetDecoderProc_reports Invariant ops
        packet (payloadOf fd (byte :: rest)) splitting.assembling written
        initial
      exact ih
        (splitting_consumePayload splitting
          (assembling_packetDecoderProc ops user _ splitting.assembling)
          data (payload_consumed_le ops fd user _ consumed).1)
        written' initial'
  | case4 fd user byte rest header failed rejected =>
      rw [frameHeaderByte_error rejected]
      exact ⟨written, initial⟩
  | case5 fd user byte rest header next user' accepted ih =>
      refine ih (splitting_frameHeaderByte splitting accepted) ?_ ?_
      · rw [pd_frameHeaderByte ops accepted]
        exact written
      · rcases frameHeaderByte_user ops accepted with same | reported
        · rw [same]
          exact initial
        · rw [reported]
          exact busFrame _ _ _ initial

end Preservation

theorem written_of_reachable {fd : FrameDecoder}
    (reachable : Reachable fd) : Written fd.pd := by
  induction reachable with
  | init memory packet size => exact written_init packet size
  | call ops user input reachable ih =>
      exact (frameDecoderProc_reports (fun _ => True) ops
        (fun _ _ _ _ => trivial) (fun _ _ _ _ => trivial) _ input
        (splitting_of_reachable reachable) ih trivial).1

/-- Every packet that a call reports is complete. -/
theorem decoded_of_mem_callbacks {fd : FrameDecoder}
    (reachable : Reachable fd) {input : List UInt8} {packet : OvPacket}
    (reported : .packet packet ∈ callbacks fd input) : Decoded packet := by
  refine (frameDecoderProc_reports
    (fun calls => ∀ packet, .packet packet ∈ calls → Decoded packet)
    recorder ?_ ?_ fd input (splitting_of_reachable reachable)
    (written_of_reachable reachable) ?_).2 packet reported
  · intro complete calls decoded initial other member
    rcases List.mem_append.mp member with earlier | last
    · exact initial other earlier
    · cases List.mem_singleton.mp last
      exact decoded
  · intro addr value calls initial other member
    rcases List.mem_append.mp member with earlier | last
    · exact initial other earlier
    · cases List.mem_singleton.mp last
  · intro other member
    cases member

end OpenVizsla.Decoder.Reported
