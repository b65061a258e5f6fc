import OpenVizsla.Device.Upkeep

/-!
# What the chip confirms

The loader takes two things from the status of the chip: that the reset has
cleared `DONE`, and that the bitstream has set it.  Both loops that wait for
them can end without such an answer.
-/

namespace OpenVizsla.Device.Confirmation

open OpenVizsla.Foundation.Calls
open OpenVizsla.Device.State
open OpenVizsla.Device.Chb
open OpenVizsla.Device.Bit
open OpenVizsla.Device.Upkeep

/-! ## Exchanges with the chip -/

/-- The query of `chb_get_high`. -/
def statusQuery : Call :=
  .ftdi .b (.writeData [getBitsHigh])

/-- The read of `chb_get`. -/
def statusRead : Call :=
  .ftdi .b (.readData 1)

/-- The results of the queries for the status and of the reads that follow. -/
def exchanges : List (Call × Answer) → List (Answer × Answer)
  | (query, asked) :: (read, heard) :: calls =>
      if query = statusQuery ∧ read = statusRead then
        (asked, heard) :: exchanges calls
      else
        exchanges ((read, heard) :: calls)
  | _ => []

theorem exchanges_append_of_ne {query : Call} (other : query ≠ statusRead)
    (history : List (Call × Answer)) (answer : Answer) :
    exchanges (history ++ [(query, answer)]) = exchanges history := by
  fun_induction exchanges history with
  | case1 query' asked read heard calls exchange ih =>
      simp only [List.cons_append, exchanges, if_pos exchange, ih]
  | case2 query' asked read heard calls apart ih =>
      simp only [List.cons_append, exchanges, if_neg apart] at ih ⊢
      exact ih
  | case3 calls short =>
      match calls with
      | [] => rfl
      | [(last, heard)] => simp [exchanges, other]
      | (first, asked) :: (second, heard) :: calls =>
          exact absurd rfl (short first asked second heard calls)

theorem exchanges_append_exchange (history : List (Call × Answer))
    (asked heard : Answer) :
    exchanges (history ++ [(statusQuery, asked), (statusRead, heard)]) =
      exchanges history ++ [(asked, heard)] := by
  fun_induction exchanges history with
  | case1 query' asked' read heard' calls exchange ih =>
      simp only [List.cons_append, exchanges, if_pos exchange, ih]
  | case2 query' asked' read heard' calls apart ih =>
      simp only [List.cons_append, exchanges, if_neg apart] at ih ⊢
      exact ih
  | case3 calls short =>
      match calls with
      | [] => simp [exchanges]
      | [(last, other)] =>
          simp [exchanges, statusQuery, statusRead]
      | (first, asked') :: (second, heard') :: calls =>
          exact absurd rfl (short first asked' second heard' calls)

/-- The status bytes of an exchange: one or none. -/
def statusOf (exchange : Answer × Answer) : List UInt8 :=
  exchange.2.received 1

/-- A read of one byte stores at most one. -/
theorem received_one (answer : Answer) :
    answer.received 1 = [] ∨ ∃ byte, answer.received 1 = [byte] := by
  unfold Answer.received
  cases answer.data with
  | nil => exact Or.inl rfl
  | cons byte data => exact Or.inr ⟨byte, rfl⟩

/-! ## The loops -/

theorem chbGetHigh_meets {status : UInt8}
    {post : Post Call Answer Memory UInt8}
    {history : List (Call × Answer)} {memory : Memory}
    (stops : ∀ stop history memory, post (.stopped stop) history memory)
    (returns :
      ∀ asked heard : Answer, 0 ≤ asked.ret →
        post (.returned ((heard.received 1).headD status))
          (history ++ [(statusQuery, asked), (statusRead, heard)]) memory) :
    (chbGetHigh status).Meets post history memory := by
  refine chbFtdi_bind_meets (stops _ _ _) (fun _ _ => stops _ _ _)
    fun asked written => ?_
  refine chbFtdi_bind_meets (stops _ _ _) (fun _ _ => stops _ _ _)
    fun heard _ => Program.meets_pure ?_
  rw [List.append_assoc]
  exact returns asked heard written

/-- Where `ret = chb_get_high(chb, &status)` can lead. -/
def Queried (status : UInt8) (history : List (Call × Answer)) :
    Post Call Answer Memory (Int × UInt8) :=
  fun ending history' _ =>
    match ending with
    | .returned (ret, status') =>
        ret = -1 ∨
          ret = 0 ∧ ∃ asked heard : Answer,
            history' =
              history ++ [(statusQuery, asked), (statusRead, heard)] ∧
            0 ≤ asked.ret ∧ status' = (heard.received 1).headD status
    | .stopped _ => True

theorem chbGetHighRet_meets (status : UInt8) (history : List (Call × Answer))
    (memory : Memory) :
    (chbGetHighRet status).Meets (Queried status history) history memory := by
  apply Program.meets_bind
  apply Program.meets_attempt
  apply chbGetHigh_meets
  case stops =>
      intro stop history' memory'
      cases stop with
      | failed => exact Program.meets_pure (Or.inl rfl)
      | aborted => trivial
      | waiting call => trivial
  case returns =>
      intro asked heard written
      exact Program.meets_pure (Or.inr ⟨rfl, asked, heard, rfl, written, rfl⟩)

/-- Only exchanges whose status byte, if any, has the bit on a given side. -/
def Uniform (side : UInt8 → Prop) (exchanges : List (Answer × Answer)) :
    Prop :=
  ∀ exchange ∈ exchanges, ∀ status ∈ statusOf exchange, side status

/-- The last exchange is the first one with a status byte without `DONE`. -/
def EndsLow (exchanges : List (Answer × Answer)) : Prop :=
  ∃ before asked heard status,
    exchanges = before ++ [(asked, heard)] ∧ 0 ≤ asked.ret ∧
      Uniform Done before ∧ heard.received 1 = [status] ∧ ¬ Done status

/-- How the status loop ends when `status` has `DONE` at its beginning. -/
def ResetLoop (history : List (Call × Answer)) :
    Post Call Answer Memory Tries :=
  fun ending history' _ =>
    match ending with
    | .returned tries =>
        tries.ret < 0 ∨ tries.left = 0 ∧ Done tries.status ∨
          tries.ret = 0 ∧ ¬ Done tries.status ∧
            ∃ later, exchanges history' = exchanges history ++ later ∧
              EndsLow later
    | .stopped _ => True

theorem EndsLow.cons {asked heard : Answer} {later : List (Answer × Answer)}
    (high : ∀ status ∈ heard.received 1, Done status)
    (ends : EndsLow later) : EndsLow ((asked, heard) :: later) := by
  obtain ⟨before, asked', heard', status, rfl, written, uniform, one, low⟩ :=
    ends
  refine ⟨(asked, heard) :: before, asked', heard', status, rfl, written,
    ?_, one, low⟩
  intro exchange member
  cases member with
  | head => exact high
  | tail _ member => exact uniform exchange member

theorem awaitReset_meets (left : Nat) :
    ∀ (status : UInt8) (history : List (Call × Answer)) (memory : Memory),
      Done status →
        (awaitReset left status).Meets (ResetLoop history) history memory := by
  induction left with
  | zero =>
      intro status history memory done
      exact Program.meets_pure (Or.inr (Or.inl ⟨rfl, done⟩))
  | succ left ih =>
      intro status history memory done
      refine Program.meets_bind
        ((chbGetHighRet_meets status history memory).mono ?_)
      intro ending history' memory' queried
      match ending, queried with
      | .stopped _, _ => trivial
      | .returned (ret, status'), queried =>
          rcases queried with rfl | ⟨rfl, asked, heard, rfl, written, rfl⟩
          · exact Program.meets_pure (Or.inl neg_one_lt_zero)
          dsimp only [Post.before]
          have exchanged := exchanges_append_exchange history asked heard
          split
          case isTrue again =>
              have high :
                  ∀ status ∈ heard.received 1, Done status := by
                rcases received_one heard with none | ⟨byte, one⟩
                · simp [none]
                · rw [one] at again ⊢
                  simpa using again.2
              refine (ih _ _ memory' again.2).mono
                fun ending history' _ looped => ?_
              match ending, looped with
              | .stopped _, _ => trivial
              | .returned tries, looped =>
                  refine looped.imp_right fun looped =>
                    looped.imp_right fun ⟨ret, low, later, same, ends⟩ =>
                      ⟨ret, low, (asked, heard) :: later, ?_,
                        ends.cons high⟩
                  rw [same, exchanged, List.append_assoc]
                  rfl
          case isFalse stops =>
              have low : ¬ Done ((heard.received 1).headD status) :=
                fun again => stops ⟨rfl, again⟩
              refine Program.meets_pure
                (Or.inr (Or.inr ⟨rfl, low, [(asked, heard)], exchanged, ?_⟩))
              rcases received_one heard with none | ⟨byte, one⟩
              · rw [none] at low
                exact absurd done low
              · refine ⟨[], asked, heard, byte, rfl, written, ?_, one, ?_⟩
                · simp [Uniform]
                · simpa [one] using low

/-- The exchanges when `chb_switch_program_mode` returns 0. -/
def ResetExchanges (exchanges : List (Answer × Answer)) : Prop :=
  (∃ exchange, exchanges = [exchange] ∧ statusOf exchange = []) ∨
    EndsLow exchanges ∧
      ∃ first ∈ exchanges.head?, statusOf first ≠ []

/-- How the status loop ends, `status` being 0 at its beginning. -/
def FirstResetLoop : Post Call Answer Memory Tries :=
  fun ending history _ =>
    match ending with
    | .returned tries =>
        tries.ret < 0 ∨ tries.left = 0 ∧ Done tries.status ∨
          tries.ret = 0 ∧ ¬ (tries.left = 0 ∧ Done tries.status) ∧
            ResetExchanges (exchanges history)
    | .stopped _ => True

theorem awaitReset_three_meets {history : List (Call × Answer)}
    (none : exchanges history = []) (memory : Memory) :
    (awaitReset 3 0).Meets FirstResetLoop history memory := by
  refine Program.meets_bind ((chbGetHighRet_meets 0 history memory).mono ?_)
  intro ending history' memory' queried
  match ending, queried with
  | .stopped _, _ => trivial
  | .returned (ret, status), queried =>
      rcases queried with rfl | ⟨rfl, asked, heard, rfl, written, rfl⟩
      · exact Program.meets_pure (Or.inl neg_one_lt_zero)
      have exchanged := exchanges_append_exchange history asked heard
      rw [none, List.nil_append] at exchanged
      dsimp only [Post.before]
      split
      case isFalse stops =>
          refine Program.meets_pure (Or.inr (Or.inr ⟨rfl, ?_, ?_⟩))
          · rintro ⟨exhausted, -⟩
            exact absurd exhausted (Nat.succ_ne_zero 2)
          rw [exchanged]
          rcases received_one heard with silent | ⟨byte, one⟩
          · exact Or.inl ⟨(asked, heard), rfl, silent⟩
          · have low : ¬ Done byte := by
              simpa [one] using stops
            have ends : EndsLow [(asked, heard)] :=
              ⟨[], asked, heard, byte, rfl, written, by simp [Uniform], one,
                low⟩
            exact Or.inr ⟨ends, (asked, heard), rfl, by simp [statusOf, one]⟩
      case isTrue again =>
          -- The initial status does not have the bit, so a byte was read.
          have nonempty : heard.received 1 ≠ [] := by
            intro silent
            rw [silent] at again
            exact absurd again.2 (by decide)
          have high : ∀ status ∈ heard.received 1, Done status := by
            rcases received_one heard with silent | ⟨byte, one⟩
            · exact absurd silent nonempty
            · rw [one] at again ⊢
              simpa using again.2
          refine (awaitReset_meets 2 _ _ memory' again.2).mono
            fun ending history' _ looped => ?_
          match ending, looped with
          | .stopped _, _ => trivial
          | .returned tries, looped =>
              refine looped.imp_right fun looped =>
                looped.imp_right fun ⟨ret, low, later, same, ends⟩ =>
                  ⟨ret, fun stuck => low stuck.2, ?_⟩
              rw [same, exchanged]
              exact Or.inr ⟨ends.cons high, (asked, heard), rfl, nonempty⟩

/-- A postcondition about runs that return a value only. -/
def onReturn {α : Type} (holds : α → List (Call × Answer) → Prop) :
    Post Call Answer Memory α
  | .returned value, history, _ => holds value history
  | .stopped _, _, _ => True

/-- Setting bits is no exchange. -/
theorem chbSet_bind_meets {α : Type} {cmd val mask : UInt8}
    {next : Unit → Action α} {holds : α → List (Call × Answer) → Prop}
    {history : List (Call × Answer)} {memory : Memory}
    (meets :
      ∀ history', exchanges history' = exchanges history →
        (next ()).Meets (onReturn holds) history' memory) :
    (chbSet cmd val mask >>= next).Meets (onReturn holds) history memory := by
  apply Program.meets_bind
  refine chbFtdi_bind_meets trivial (fun _ _ => trivial) fun answer _ => ?_
  refine Program.meets_pure (meets _ ?_)
  exact exchanges_append_of_ne (by simp [statusRead]) history answer

theorem chbSwitchProgramMode_meets (memory : Memory) :
    chbSwitchProgramMode.Meets
      (onReturn fun _ history => ResetExchanges (exchanges history))
      [] memory := by
  refine chbSet_bind_meets fun _ first => chbSet_bind_meets fun _ second =>
    chbSet_bind_meets fun _ third => ?_
  have none := third.trans (second.trans first)
  refine Program.meets_bind ((awaitReset_three_meets none memory).mono ?_)
  intro ending history memory looped
  match ending, looped with
  | .stopped _, _ => trivial
  | .returned tries, looped =>
      dsimp only [Post.before]
      split
      case isTrue failed => exact Program.meets_fail trivial
      case isFalse natural =>
          split
          case isTrue stuck =>
              exact Program.meets_bind_modify (Program.meets_fail trivial)
          case isFalse settled =>
              obtain failed | stuck | ⟨ret, settled, reset⟩ := looped
              · exact absurd failed natural
              · exact absurd stuck settled
              · exact Program.meets_pure reset

/-! ## The loader -/

/-- No start-up cycles were left unwritten. -/
def Written (history : List (Call × Answer)) : Prop :=
  ∀ answer, (startUpWrite, answer) ∈ history → answer.ret ≠ 0

/-- A status byte that was received has `DONE`. -/
def LoadConfirmed (history : List (Call × Answer)) : Prop :=
  ∃ exchange ∈ exchanges history, ∃ status ∈ statusOf exchange, Done status

/-- Before the end of the loop, all is written and nothing confirmed. -/
def Unconfirmed (history : List (Call × Answer)) : Prop :=
  Written history ∧ ¬ LoadConfirmed history

theorem written_append_of_ne {history : List (Call × Answer)} {call : Call}
    (other : call ≠ startUpWrite) (answer : Answer) :
    Written (history ++ [(call, answer)]) ↔ Written history := by
  simp only [Written, List.mem_append, List.mem_singleton, Prod.mk.injEq]
  refine forall_congr' fun _ => ?_
  refine imp_congr_left (or_iff_left fun same => other same.1.symm)

theorem written_append_write {history : List (Call × Answer)}
    (answer : Answer) :
    Written (history ++ [(startUpWrite, answer)]) ↔
      Written history ∧ answer.ret ≠ 0 := by
  simp only [Written, List.mem_append, List.mem_singleton, Prod.mk.injEq,
    true_and]
  constructor
  · intro written
    exact ⟨fun answer member => written answer (Or.inl member),
      written answer (Or.inr rfl)⟩
  · rintro ⟨written, last⟩ answer (member | rfl)
    · exact written answer member
    · exact last

theorem loadConfirmed_append_of_ne {history : List (Call × Answer)}
    {call : Call} (other : call ≠ statusRead) (answer : Answer) :
    LoadConfirmed (history ++ [(call, answer)]) ↔ LoadConfirmed history := by
  rw [LoadConfirmed, exchanges_append_of_ne other]
  rfl

theorem loadConfirmed_append_exchange (history : List (Call × Answer))
    (asked heard : Answer) :
    LoadConfirmed
        (history ++ [(statusQuery, asked), (statusRead, heard)]) ↔
      LoadConfirmed history ∨ ∃ status ∈ heard.received 1, Done status := by
  simp only [LoadConfirmed, exchanges_append_exchange, List.mem_append,
    List.mem_singleton, or_and_right, exists_or, exists_eq_left, statusOf]

theorem written_append_exchange (history : List (Call × Answer))
    (asked heard : Answer) :
    Written (history ++ [(statusQuery, asked), (statusRead, heard)]) ↔
      Written history := by
  rw [List.append_cons, written_append_of_ne (by decide),
    written_append_of_ne (by decide)]

/-- How the start-up loop ends. -/
def LoadLoop : Post Call Answer Memory Tries :=
  fun ending history _ =>
    match ending with
    | .returned tries =>
        tries.ret < 0 ∨ tries.left = 0 ∧ ¬ Done tries.status ∨
          (LoadConfirmed history ↔ Written history)
    | .stopped _ => True

theorem awaitDone_meets (left : Nat) :
    ∀ (status : UInt8) (history : List (Call × Answer)) (memory : Memory),
      ¬ Done status → Unconfirmed history →
        (awaitDone left status).Meets LoadLoop history memory := by
  induction left with
  | zero =>
      intro status history memory low _
      exact Program.meets_pure (Or.inr (Or.inl ⟨rfl, low⟩))
  | succ left ih =>
      intro status history memory low ⟨allWritten, silent⟩
      refine Program.meets_bind_call trivial fun written => ?_
      have confirmed :
          LoadConfirmed (history ++ [(startUpWrite, written)]) ↔
            LoadConfirmed history :=
        loadConfirmed_append_of_ne (by decide) written
      have wrote :
          Written (history ++ [(startUpWrite, written)]) ↔
            Written history ∧ written.ret ≠ 0 :=
        written_append_write written
      split
      case isFalse none =>
          refine Program.meets_pure ?_
          rcases lt_or_eq_of_le (Int.not_lt.mp none) with negative | zero
          · exact Or.inl negative
          · refine Or.inr (Or.inr ?_)
            rw [confirmed, wrote]
            exact iff_of_false silent fun all => all.2 zero
      case isTrue some =>
          generalize history ++ [(startUpWrite, written)] = history at *
          refine Program.meets_bind
            ((chbGetHighRet_meets status history memory).mono ?_)
          intro ending history' memory' queried
          match ending, queried with
          | .stopped _, _ => trivial
          | .returned (ret, status'), queried =>
              rcases queried with rfl | ⟨rfl, asked, heard, rfl, -, rfl⟩
              · exact Program.meets_pure (Or.inl neg_one_lt_zero)
              have written' := written_append_exchange history asked heard
              have confirmed' :=
                loadConfirmed_append_exchange history asked heard
              have allWritten : Written history :=
                wrote.mpr ⟨allWritten, by omega⟩
              dsimp only [Post.before]
              split
              case isTrue again =>
                  refine ih _ _ memory' again.2
                    ⟨written'.mpr allWritten, ?_⟩
                  rw [confirmed', confirmed]
                  refine not_or.mpr ⟨silent, ?_⟩
                  rcases received_one heard with none | ⟨byte, one⟩
                  · simp [none]
                  · simpa [one] using again.2
              case isFalse stops =>
                  refine Program.meets_pure (Or.inr (Or.inr ?_))
                  rw [written', confirmed']
                  refine iff_of_true (Or.inr ?_) allWritten
                  have high : Done ((heard.received 1).headD status) :=
                    by_contra fun again => stops ⟨rfl, again⟩
                  rcases received_one heard with none | ⟨byte, one⟩
                  · rw [none] at high
                    exact absurd high low
                  · exact ⟨byte, one ▸ List.mem_singleton_self byte,
                      by simpa [one] using high⟩

/-- The upload has nothing to do with the status. -/
theorem unconfirmed_upkeep :
    BitUpkeep (fun history _ => Unconfirmed history) (fun _ _ => True) where
  call := by
    intro call history memory answer ordinary unconfirmed
    have other : Call.ftdi .a call ≠ startUpWrite := by
      rintro same
      cases same
      exact ordinary rfl
    exact ⟨(written_append_of_ne other answer).mpr unconfirmed.1,
      fun confirmed => unconfirmed.2
        ((loadConfirmed_append_of_ne (by simp [statusRead]) answer).mp
          confirmed)⟩
  fail := fun _ _ => trivial

theorem startUp_meets {history : List (Call × Answer)} {memory : Memory}
    (unconfirmed : Unconfirmed history) :
    startUp.Meets
      (onReturn fun _ history => LoadConfirmed history ↔ Written history)
      history memory := by
  refine Program.meets_bind
    ((awaitDone_meets 3 0 history memory (by decide) unconfirmed).mono ?_)
  intro ending history memory looped
  match ending, looped with
  | .stopped _, _ => trivial
  | .returned tries, looped =>
      dsimp only [Post.before]
      split
      case isTrue failed => exact Program.meets_fail trivial
      case isFalse natural =>
          split
          case isTrue stuck =>
              exact Program.meets_bind_modify (Program.meets_fail trivial)
          case isFalse settled =>
              obtain failed | stuck | confirmed := looped
              · exact absurd failed natural
              · exact absurd stuck settled
              · exact Program.meets_pure confirmed

theorem bitLoadFirmware_meets (memory : Memory) :
    bitLoadFirmware.Meets
      (onReturn fun _ history => LoadConfirmed history ↔ Written history)
      [] memory := by
  have start : Unconfirmed [] := by
    refine ⟨fun answer member => absurd member List.not_mem_nil, ?_⟩
    rintro ⟨exchange, member, -⟩
    exact absurd member List.not_mem_nil
  refine Program.meets_bind_get (Program.meets_bind ?_)
  refine (submitAll_upholds unconfirmed_upkeep 0 0 _ [] memory start).mono
    fun ending history memory submitted => ?_
  match ending, submitted with
  | .stopped _, _ => trivial
  | .returned tc, submitted =>
      refine Program.meets_bind ?_
      refine (transferDone_upholds unconfirmed_upkeep tc history memory
        submitted).mono fun ending history memory done => ?_
      match ending, done with
      | .stopped _, _ => trivial
      | .returned _, done => exact startUp_meets done

/-! ## Success and confirmation -/

/-- The status bytes that answer a query that was written. -/
def ownStatuses (exchanges : List (Answer × Answer)) : List UInt8 :=
  exchanges.flatMap fun exchange =>
    if 0 < exchange.1.ret then statusOf exchange else []

/-- The last status byte received in response to a query lacks `DONE`. -/
def ResetConfirmed (history : List (Call × Answer)) : Prop :=
  ∃ status ∈ (ownStatuses (exchanges history)).getLast?, ¬ Done status

/-- A status byte without `DONE` is received. -/
def IsLow (exchange : Answer × Answer) : Bool :=
  (statusOf exchange).any fun status => ¬ Done status

/--
The first read for the status gives a byte, and the query before the first
byte without `DONE` was written.
-/
def ResetAnswered (history : List (Call × Answer)) : Prop :=
  (∃ first ∈ (exchanges history).head?, statusOf first ≠ []) ∧
    ∀ exchange ∈ (exchanges history).find? IsLow, 0 < exchange.1.ret

theorem isLow_of_one {asked heard : Answer} {status : UInt8}
    (one : heard.received 1 = [status]) (low : ¬ Done status) :
    IsLow (asked, heard) = true := by
  simp [IsLow, statusOf, one, low]

theorem find_low {before : List (Answer × Answer)} {asked heard : Answer}
    {status : UInt8} (uniform : Uniform Done before)
    (one : heard.received 1 = [status]) (low : ¬ Done status) :
    (before ++ [(asked, heard)]).find? IsLow = some (asked, heard) := by
  have none : before.find? IsLow = none := by
    rw [List.find?_eq_none]
    intro exchange member found
    obtain ⟨status, held, low⟩ := List.any_eq_true.mp found
    exact of_decide_eq_true low (uniform exchange member status held)
  rw [List.find?_append, none, Option.none_or,
    List.find?_cons_of_pos (isLow_of_one one low)]

theorem done_of_mem_ownStatuses {before : List (Answer × Answer)}
    (uniform : Uniform Done before) {status : UInt8}
    (member : status ∈ ownStatuses before) : Done status := by
  obtain ⟨exchange, held, own⟩ := List.mem_flatMap.mp member
  split at own
  · exact uniform exchange held status own
  · exact absurd own List.not_mem_nil

theorem EndsLow.confirmed_iff {exchanges : List (Answer × Answer)}
    (ends : EndsLow exchanges) :
    (∃ status ∈ (ownStatuses exchanges).getLast?, ¬ Done status) ↔
      ∀ exchange ∈ exchanges.find? IsLow, 0 < exchange.1.ret := by
  obtain ⟨before, asked, heard, status, rfl, written, uniform, one, low⟩ :=
    ends
  rw [find_low uniform one low, ownStatuses, List.flatMap_append]
  simp only [Option.mem_some_iff, forall_eq', List.flatMap_singleton]
  rcases lt_or_eq_of_le written with positive | zero
  · refine iff_of_true ⟨status, ?_, low⟩ positive
    simp [positive, statusOf, one]
  · refine iff_of_false ?_ (by omega)
    rintro ⟨last, own, lastLow⟩
    rw [if_neg (by omega), List.append_nil] at own
    exact lastLow
      (done_of_mem_ownStatuses uniform (List.mem_of_getLast? own))

theorem ResetExchanges.confirmed_iff {history : List (Call × Answer)}
    (reset : ResetExchanges (exchanges history)) :
    ResetConfirmed history ↔ ResetAnswered history := by
  rw [ResetConfirmed, ResetAnswered]
  rcases reset with ⟨exchange, alone, silent⟩ | ⟨ends, first⟩
  · rw [alone]
    refine iff_of_false ?_ ?_
    · rintro ⟨status, own, -⟩
      simp [ownStatuses, silent] at own
    · rintro ⟨⟨first, head, some⟩, -⟩
      cases head
      exact some silent
  · rw [ends.confirmed_iff]
    exact (and_iff_right first).symm

/--
A successful reset of the FPGA was confirmed if and only if its first status
query got a byte and the query that ended it was written; a successful load,
if and only if no start-up cycles were left unwritten.
-/
theorem success_confirmed_iff (memory memory' : Memory)
    (script script' : List Answer)
    (reset :
      (chbSwitchProgramMode.run memory script).ending = .returned ())
    (loaded : (bitLoadFirmware.run memory' script').ending = .returned ()) :
    (ResetConfirmed (chbSwitchProgramMode.run memory script).calls ↔
        ResetAnswered (chbSwitchProgramMode.run memory script).calls) ∧
      (LoadConfirmed (bitLoadFirmware.run memory' script').calls ↔
        Written (bitLoadFirmware.run memory' script').calls) := by
  have resetMeets := chbSwitchProgramMode_meets memory script
  have loadMeets := bitLoadFirmware_meets memory' script'
  rw [reset] at resetMeets
  rw [loaded] at loadMeets
  exact ⟨ResetExchanges.confirmed_iff resetMeets, loadMeets⟩

/-- A chip that answers every query at once. -/
theorem success_confirmed_atOnce :
    ResetConfirmed
        (chbSwitchProgramMode.run Memory.zeroed
          [counted 3, counted 3, counted 3, counted 1,
            delivered [0x00]]).calls ∧
      LoadConfirmed
        (bitLoadFirmware.run Memory.zeroed
          [counted 0, counted 8, counted 1, delivered [0x04]]).calls := by
  have iffs :=
    success_confirmed_iff Memory.zeroed Memory.zeroed
      [counted 3, counted 3, counted 3, counted 1, delivered [0x00]]
      [counted 0, counted 8, counted 1, delivered [0x04]]
      (by decide +kernel) (by decide +kernel)
  refine ⟨iffs.1.mpr ⟨⟨(counted 1, delivered [0x00]), ?_, ?_⟩, ?_⟩,
    iffs.2.mpr ?_⟩
  · decide +kernel
  · decide
  · intro exchange found
    have low :
        exchange = (counted 1, delivered [0x00]) :=
      Option.mem_some_iff.mp found |>.symm
    rw [low]
    decide
  · intro answer member
    have calls :
        (bitLoadFirmware.run Memory.zeroed
            [counted 0, counted 8, counted 1, delivered [0x04]]).calls =
          [(.ftdi .a (.transferDataDone 0), counted 0),
            (startUpWrite, counted 8), (statusQuery, counted 1),
            (statusRead, delivered [0x04])] := by
      decide +kernel
    rw [calls] at member
    simp [startUpWrite, statusQuery, statusRead] at member
    rw [member]
    decide

/-- The reset succeeds without any status byte when the first read is empty. -/
theorem reset_not_confirmed :
    ¬ ∀ (memory : Memory) (script : List Answer),
        ((chbSwitchProgramMode.run memory script).ending = .returned () →
          ResetConfirmed (chbSwitchProgramMode.run memory script).calls) ∧
        ((bitLoadFirmware.run memory script).ending = .returned () →
          LoadConfirmed (bitLoadFirmware.run memory script).calls) := by
  intro claim
  obtain ⟨status, own, -⟩ :=
    (claim Memory.zeroed
      [counted 3, counted 3, counted 3, counted 1, delivered []]).1
      (by decide +kernel)
  have none :
      (ownStatuses (exchanges (chbSwitchProgramMode.run Memory.zeroed
        [counted 3, counted 3, counted 3, counted 1,
          delivered []]).calls)).getLast? = none := by
    decide +kernel
  rw [none] at own
  cases own

end OpenVizsla.Device.Confirmation
