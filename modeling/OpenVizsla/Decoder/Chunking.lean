import OpenVizsla.Decoder.Callbacks

/-!
# Cutting the stream

The library cuts the byte stream of the device at every USB packet.  This file
shows that the frame decoder does not see the cuts.

The byte machine does not see them by construction, so the statement for one
cut is read off from the refinement of `frameDecoderProc` by the machine.
-/

namespace OpenVizsla.Decoder.Chunking

open OpenVizsla.Foundation.Streaming
open OpenVizsla.Decoder.PacketProc
open OpenVizsla.Decoder.FrameProc
open OpenVizsla.Decoder.Invariant
open OpenVizsla.Decoder.ByteMachine
open OpenVizsla.Decoder.Callbacks

variable {σ : Type*}

/-- Outcomes that follow the same run agree. -/
theorem followsFrameBytes_agrees
    {run : Except (FrameDecoder × σ) (FrameDecoder × σ)} {length : Nat}
    {left right : Outcome FrameDecoder σ Copy}
    (leftFollows : FollowsFrameBytes run length left)
    (rightFollows : FollowsFrameBytes run length right) :
    Outcome.Agrees left right := by
  cases run with
  | error failed =>
      obtain ⟨leftConsumed, leftUser, -⟩ := leftFollows
      obtain ⟨rightConsumed, rightUser, -⟩ := rightFollows
      exact ⟨leftUser.trans rightUser.symm,
        leftConsumed.trans rightConsumed.symm,
        fun succeeded => absurd leftConsumed succeeded⟩
  | ok next =>
      obtain ⟨leftConsumed, leftUser, leftNext⟩ := leftFollows
      obtain ⟨rightConsumed, rightUser, rightNext⟩ := rightFollows
      exact ⟨leftUser.trans rightUser.symm,
        leftConsumed.trans rightConsumed.symm,
        fun _ => leftNext.trans rightNext.symm⟩

/-- One cut. -/
theorem frameDecoderProc_append (ops : DecoderOps σ) (fd : FrameDecoder)
    (user : σ) (left right : List UInt8) (splitting : Splitting fd) :
    Outcome.Agrees (frameDecoderProc ops fd user (left ++ right))
      ((frameDecoderProc ops fd user left).andThen fun fd user =>
        frameDecoderProc ops fd user right) := by
  have whole :=
    frameDecoderProc_frameBytes ops fd user (left ++ right) splitting
  have first := frameDecoderProc_frameBytes ops fd user left splitting
  rw [frameBytes_append] at whole
  cases run : frameBytes ops (fd, user) left with
  | error failed =>
      rw [run] at whole first
      rw [Outcome.andThen_of_failed first.1]
      exact followsFrameBytes_agrees whole first
  | ok next =>
      rw [run] at whole first
      obtain ⟨firstConsumed, firstUser, firstNext⟩ := first
      have reached : Splitting next.1 := splitting_frameBytes splitting run
      have second :=
        (frameDecoderProc_frameBytes ops next.1 next.2 right reached).after
          left.length (frameDecoderProc ops fd user left).log
      rw [Outcome.andThen_of_consumed firstConsumed, firstUser, firstNext]
      rw [List.length_append] at whole
      exact followsFrameBytes_agrees whole second

/-- The frame decoder does not see a cut. -/
theorem frameDecoderProc_splits (ops : DecoderOps σ) :
    Splits (frameDecoderProc ops) Splitting where
  empty fd user := by rw [frameDecoderProc]
  invariant fd user input splitting :=
    splitting_frameDecoderProc ops fd user input splitting
  append fd user left right splitting :=
    frameDecoderProc_append ops fd user left right splitting

/-! ## The callbacks of a cut stream -/

/-- The recorder adds what it is told. -/
theorem replay_recorder (before calls : List Callback) :
    replay recorder before calls = before ++ calls := by
  induction calls generalizing before with
  | nil => exact (List.append_nil before).symm
  | cons call rest ih =>
      have first : Callback.apply recorder before call = before ++ [call] := by
        cases call <;> rfl
      rw [replay, List.foldl_cons, first]
      exact (ih _).trans (List.append_assoc before [call] rest)

theorem callbacks_append {fd : FrameDecoder} (splitting : Splitting fd)
    (left right : List UInt8)
    (succeeded : (frameDecoderProc recorder fd [] left).consumed ≠ none) :
    callbacks fd (left ++ right) =
      callbacks fd left ++
        callbacks (frameDecoderProc recorder fd [] left).processor right := by
  have agrees := frameDecoderProc_append recorder fd [] left right splitting
  obtain ⟨count, consumed⟩ := Option.ne_none_iff_exists'.mp succeeded
  rw [Outcome.andThen_of_consumed consumed] at agrees
  have middle := splitting_frameDecoderProc recorder fd [] left splitting
  have second := frameDecoderProc_replay recorder
    (frameDecoderProc recorder fd [] left).user right middle
  rw [replay_recorder] at second
  exact agrees.user.trans second

theorem callbacks_append_of_failed {fd : FrameDecoder}
    (splitting : Splitting fd) (left right : List UInt8)
    (failed : (frameDecoderProc recorder fd [] left).consumed = none) :
    callbacks fd (left ++ right) = callbacks fd left := by
  have agrees := frameDecoderProc_append recorder fd [] left right splitting
  rw [Outcome.andThen_of_failed failed] at agrees
  exact agrees.user

/-- The callbacks of a part of the stream come first. -/
theorem callbacks_isPrefix {fd : FrameDecoder} (splitting : Splitting fd)
    (left right : List UInt8) :
    callbacks fd left <+: callbacks fd (left ++ right) := by
  by_cases failed : (frameDecoderProc recorder fd [] left).consumed = none
  · rw [callbacks_append_of_failed splitting left right failed]
  · rw [callbacks_append splitting left right failed]
    exact List.prefix_append _ _

/-- Whether a cut stream fails, and the state that it leads to. -/
theorem consumed_append {fd : FrameDecoder} (splitting : Splitting fd)
    (left right : List UInt8)
    (succeeded : (frameDecoderProc recorder fd [] left).consumed ≠ none) :
    ((frameDecoderProc recorder fd [] (left ++ right)).consumed = none ↔
        (frameDecoderProc recorder
          (frameDecoderProc recorder fd [] left).processor []
            right).consumed = none) ∧
      ((frameDecoderProc recorder fd [] (left ++ right)).consumed ≠ none →
        (frameDecoderProc recorder fd [] (left ++ right)).processor =
          (frameDecoderProc recorder
            (frameDecoderProc recorder fd [] left).processor []
              right).processor) := by
  have agrees := frameDecoderProc_append recorder fd [] left right splitting
  obtain ⟨count, consumed⟩ := Option.ne_none_iff_exists'.mp succeeded
  rw [Outcome.andThen_of_consumed consumed] at agrees
  have middle := splitting_frameDecoderProc recorder fd [] left splitting
  obtain ⟨sameConsumed, -, sameProcessor⟩ := frameDecoderProc_client recorder
    (frameDecoderProc recorder fd [] left).user right middle
  have whole := agrees.consumed
  rw [Outcome.after_consumed, sameConsumed] at whole
  refine ⟨by rw [whole, Option.map_eq_none_iff], fun done => ?_⟩
  have rest := agrees.processor done
  rw [Outcome.after_processor] at rest
  refine rest.trans (sameProcessor ?_)
  rw [sameConsumed]
  intro failed
  rw [whole, failed] at done
  exact done rfl

end OpenVizsla.Decoder.Chunking
