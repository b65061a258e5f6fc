import Mathlib
import OpenVizsla.Foundation.Logging
import OpenVizsla.Foundation.Runs
import OpenVizsla.Device.Traces

/-!
# The upload of a bitstream

`bit_load_firmware` fills two buffers on the stack in turn and submits each of
them for a transfer that goes on while the other one is filled.  Here the loop
is written down a second time, with its stores into the buffers.  `watch`
looks at the stores and the calls and stops where a transfer would be
disturbed, forgotten or waited for twice.
-/

namespace OpenVizsla.Device.Upload

open OpenVizsla.Foundation.Calls
open OpenVizsla.Foundation.Runs
open OpenVizsla.Device.State
open OpenVizsla.Device.Bit
open OpenVizsla.Device.Upkeep

/-! ## The loop with its stores -/

/-- `buf[bidx][index] = byte` -/
structure Store where
  bidx : Nat
  index : Nat
  byte : UInt8
deriving DecidableEq, Repr

/-- What happens during an upload. -/
abbrev UploadLog : Type :=
  Log Call Answer Store

abbrev LoggedAction (α : Type) : Type :=
  Program Call Answer (Memory × UploadLog) α

/-- The stores of the inner loop, from `index` on. -/
def fill (bidx : Nat) : (index : Nat) → List UInt8 → List Store
  | _, [] => []
  | index, byte :: rest => ⟨bidx, index, byte⟩ :: fill bidx (index + 1) rest

/-- The outer loop: fill a buffer, wait for the other one, submit. -/
def loggedSubmitAll (bidx : Nat) (tc : Int) (data : List UInt8) :
    LoggedAction Int :=
  if data = [] then
    pure tc
  else do
    let buf := (data.take 4096).map bitreverse8
    Program.note (fill bidx 0 buf)
    Program.observe (previousDone tc)
    let submitted ←
      Program.observe (Program.call (.ftdi .a (.writeDataSubmit bidx buf)))
    if submitted.ret = 0 then
      Program.observe (bitFail submitted.text)
    else
      loggedSubmitAll ((bidx + 1) % 2) submitted.ret (data.drop 4096)
termination_by data.length
decreasing_by exact length_drop_lt ‹_›

def loggedLoadFirmware : LoggedAction Unit := do
  let memory ← Program.observe Program.get
  let tc ← loggedSubmitAll 0 0 (bytes memory.bit memory.bit.size)
  Program.observe (transferDone tc)
  Program.observe startUp

/-- Without the stores, it is the loop. -/
theorem erases_submitAll (bidx : Nat) (tc : Int) (data : List UInt8) :
    Program.Erases (loggedSubmitAll bidx tc data) (submitAll bidx tc data) := by
  rw [loggedSubmitAll, submitAll]
  split
  · exact Program.erases_pure tc
  · rename_i more
    refine Program.erases_note_bind ?_
    refine Program.erases_bind (Program.erases_observe _) fun _ => ?_
    refine Program.erases_bind (Program.erases_observe _) fun submitted => ?_
    split
    · exact Program.erases_observe _
    · exact erases_submitAll _ _ _
termination_by data.length
decreasing_by exact length_drop_lt ‹_›

theorem erases_loadFirmware :
    Program.Erases loggedLoadFirmware bitLoadFirmware := by
  refine Program.erases_bind (Program.erases_observe _) fun memory => ?_
  refine Program.erases_bind (erases_submitAll _ _ _) fun tc => ?_
  exact Program.erases_bind (Program.erases_observe _)
    fun _ => Program.erases_observe _

/-! ## The watch -/

/-- The buffers, and the transfer under way with its buffer. -/
structure Watch where
  buf : Nat → Nat → Option UInt8
  outstanding : Option (Int × Nat)

/-- Before the upload. -/
def idle : Watch where
  buf := fun _ _ => none
  outstanding := none

def Watch.store (watch : Watch) (store : Store) : Watch :=
  { watch with
    buf := Function.update watch.buf store.bidx
      (Function.update (watch.buf store.bidx) store.index
        (some store.byte)) }

/-- The transfer under way does not use the buffer. -/
def Watch.Spares (watch : Watch) (bidx : Nat) : Prop :=
  ∀ transfer ∈ watch.outstanding, transfer.2 ≠ bidx

instance (watch : Watch) (bidx : Nat) : Decidable (watch.Spares bidx) :=
  inferInstanceAs (Decidable (∀ transfer ∈ watch.outstanding, _))

/--
What may happen: a store into one of the two buffers, within its bounds, while
no transfer uses it; a submission of what is in a buffer, while no transfer is
under way; and a wait for the transfer that is.
-/
def watch (state : Watch) : (Call × Answer) ⊕ Store → Option Watch
  | .inr store =>
      if state.Spares store.bidx ∧ store.bidx < 2 ∧ store.index < 4096 then
        some (state.store store)
      else
        none
  | .inl (.ftdi .a (.writeDataSubmit bidx buf), answer) =>
      if state.outstanding = none ∧
          ∀ index < buf.length, state.buf bidx index = buf[index]? then
        some { state with
          outstanding :=
            if answer.ret = 0 then none else some (answer.ret, bidx) }
      else
        none
  | .inl (.ftdi .a (.transferDataDone tc), _) =>
      if state.outstanding.map Prod.fst = some tc then
        some { state with outstanding := none }
      else
        none
  | .inl _ => some state

/-! ## Calls of the upload -/

/-- The bytes that a call hands over for a transfer. -/
def handedOver : Call → List UInt8
  | .ftdi .a (.writeDataSubmit _ buf) => buf
  | _ => []

/-- The transfer that a call has started. -/
def startedBy : Call × Answer → List Int
  | (.ftdi .a (.writeDataSubmit _ _), answer) =>
      if answer.ret = 0 then [] else [answer.ret]
  | _ => []

/-- The transfer that a call waits for. -/
def awaitedBy : Call → List Int
  | .ftdi .a (.transferDataDone tc) => [tc]
  | _ => []

/-- The bytes handed over, in order. -/
def submitted (calls : List (Call × Answer)) : List UInt8 :=
  calls.flatMap fun entry => handedOver entry.1

/-- The transfers that have been started, in order. -/
def started (calls : List (Call × Answer)) : List Int :=
  calls.flatMap startedBy

/-- The transfers that have been waited for, in order. -/
def awaited (calls : List (Call × Answer)) : List Int :=
  calls.flatMap fun entry => awaitedBy entry.1

/-- A submission that starts no transfer, or a wait that fails. -/
def TransferFails : Call × Answer → Prop
  | (.ftdi .a (.writeDataSubmit _ _), answer) => answer.ret = 0
  | (.ftdi .a (.transferDataDone _), answer) => answer.ret < 0
  | _ => False

/-- The call has nothing to do with transfers. -/
def Unrelated : Call → Prop
  | .ftdi .a (.writeDataSubmit _ _) => False
  | .ftdi .a (.transferDataDone _) => False
  | _ => True

theorem unrelated_cases {call : Call} (unrelated : Unrelated call)
    (answer : Answer) :
    handedOver call = [] ∧ startedBy (call, answer) = [] ∧
      awaitedBy call = [] ∧
      ∀ state, watch state (.inl (call, answer)) = some state := by
  unfold Unrelated at unrelated
  split at unrelated
  · cases unrelated
  · cases unrelated
  · rename_i noSubmit noWait
    refine ⟨?_, ?_, ?_, fun state => ?_⟩
    · unfold handedOver
      split
      · exact absurd rfl (noSubmit _ _)
      · rfl
    · unfold startedBy
      split
      · rename_i same
        cases same
        exact absurd rfl (noSubmit _ _)
      · rfl
    · unfold awaitedBy
      split
      · exact absurd rfl (noWait _)
      · rfl
    · unfold watch
      split
      · rename_i same
        cases same
      · rename_i same
        cases same
        exact absurd rfl (noSubmit _ _)
      · rename_i same
        cases same
        exact absurd rfl (noWait _)
      · rfl

/-! ## Filling a buffer -/

/-- A buffer that is spared can be filled. -/
theorem run_fill {state : Watch} {bidx : Nat} (spares : state.Spares bidx)
    (inside : bidx < 2) (bytes : List UInt8) (index : Nat)
    (fits : index + bytes.length ≤ 4096) :
    ∃ next, run watch state ((fill bidx index bytes).map Sum.inr) =
        some next ∧
      next.outstanding = state.outstanding ∧
      (∀ earlier < index,
        next.buf bidx earlier = state.buf bidx earlier) ∧
      ∀ offset < bytes.length,
        next.buf bidx (index + offset) = bytes[offset]? := by
  induction bytes generalizing state index with
  | nil =>
      refine ⟨state, rfl, rfl, fun _ _ => rfl, fun offset outside => ?_⟩
      cases outside
  | cons byte rest ih =>
      rw [List.length_cons] at fits
      let stored := state.store ⟨bidx, index, byte⟩
      have step : watch state (.inr ⟨bidx, index, byte⟩) = some stored := by
        refine if_pos ⟨spares, inside, ?_⟩
        show index < 4096
        omega
      have spares' : stored.Spares bidx := spares
      obtain ⟨next, filled, outstanding, earlier, behind⟩ :=
        ih spares' (index + 1) (by omega)
      have written (other : Nat) : stored.buf bidx other =
          if other = index then some byte else state.buf bidx other := by
        simp [stored, Watch.store, Function.update_apply]
      refine ⟨next, ?_, outstanding, ?_, ?_⟩
      · rw [fill, List.map_cons, run_cons, step]
        exact filled
      · intro other before
        rw [earlier other (by omega), written, if_neg (by omega)]
      · intro offset inRange
        cases offset with
        | zero =>
            rw [Nat.add_zero, earlier index (by omega), written, if_pos rfl]
            rfl
        | succ offset =>
            rw [List.length_cons] at inRange
            have later := behind offset (by omega)
            rw [show index + (offset + 1) = index + 1 + offset by omega,
              later]
            rfl

/-! ## What holds during an upload -/

theorem submitted_append (first second : List (Call × Answer)) :
    submitted (first ++ second) = submitted first ++ submitted second :=
  List.flatMap_append

theorem started_append (first second : List (Call × Answer)) :
    started (first ++ second) = started first ++ started second :=
  List.flatMap_append

theorem awaited_append (first second : List (Call × Answer)) :
    awaited (first ++ second) = awaited first ++ awaited second :=
  List.flatMap_append

/--
Nothing has gone wrong so far.  What has been handed over is the beginning of
the image, and all transfers have been waited for but the one under way.
-/
structure Going (image : List UInt8) (history : List (Call × Answer))
    (log : UploadLog) (state : Watch) : Prop where
  accepted : run watch idle log = some state
  handed : submitted history <+: image
  paired :
    started history =
      awaited history ++ state.outstanding.toList.map Prod.fst
  ordered :
    ∀ before, before <+: history → awaited before <+: started before

section Going

variable {image : List UInt8} {history : List (Call × Answer)}
  {log : UploadLog} {state : Watch}

theorem run_concat {log : UploadLog} {state next : Watch}
    {event : (Call × Answer) ⊕ Store}
    (accepted : run watch idle log = some state)
    (step : watch state event = some next) :
    run watch idle (log ++ [event]) = some next := by
  refine run_append_eq_some_iff.mpr ⟨state, accepted, ?_⟩
  rw [run_cons, step]
  rfl

/-- One more call keeps the order, if the transfers are paired behind it. -/
theorem ordered_concat {history : List (Call × Answer)}
    {entry : Call × Answer} {left : List Int}
    (ordered :
      ∀ before, before <+: history → awaited before <+: started before)
    (paired : started (history ++ [entry]) =
      awaited (history ++ [entry]) ++ left) :
    ∀ before, before <+: history ++ [entry] →
      awaited before <+: started before := by
  intro before inside
  rcases List.prefix_concat_iff.mp inside with whole | earlier
  · rw [whole, paired]
    exact List.prefix_append _ _
  · exact ordered before earlier

theorem going_idle (image : List UInt8) : Going image [] [] idle where
  accepted := rfl
  handed := List.nil_prefix
  paired := rfl
  ordered before inside := by
    rw [List.prefix_nil.mp inside]
    exact List.prefix_rfl

/-- The wait for the transfer under way. -/
theorem Going.wait (going : Going image history log state) {tc : Int}
    (outstanding : state.outstanding.map Prod.fst = some tc)
    (answer : Answer) :
    Going image (history ++ [(.ftdi .a (.transferDataDone tc), answer)])
      (log ++ [.inl (.ftdi .a (.transferDataDone tc), answer)])
      { state with outstanding := none } := by
  obtain ⟨transfer, under, rfl⟩ := Option.map_eq_some_iff.mp outstanding
  have paired := going.paired
  rw [under] at paired
  have paired' : started
        (history ++ [(.ftdi .a (.transferDataDone transfer.1), answer)]) =
      awaited
        (history ++ [(.ftdi .a (.transferDataDone transfer.1), answer)]) ++
          [] := by
    rw [started_append, awaited_append, paired]
    simp [started, awaited, startedBy, awaitedBy]
  constructor
  · exact run_concat going.accepted (if_pos outstanding)
  · rw [submitted_append]
    exact (List.append_nil (submitted history)).symm ▸ going.handed
  · exact paired'
  · exact ordered_concat going.ordered paired'

/-- A submission of what is in a buffer. -/
theorem Going.submit (going : Going image history log state) {bidx : Nat}
    {buf : List UInt8} (none' : state.outstanding = none)
    (filled : ∀ index < buf.length, state.buf bidx index = buf[index]?)
    (handed : submitted history ++ buf <+: image) (answer : Answer) :
    Going image
      (history ++ [(.ftdi .a (.writeDataSubmit bidx buf), answer)])
      (log ++ [.inl (.ftdi .a (.writeDataSubmit bidx buf), answer)])
      { state with
        outstanding :=
          if answer.ret = 0 then none else some (answer.ret, bidx) } := by
  have paired := going.paired
  rw [none'] at paired
  have paired' : started
        (history ++ [(.ftdi .a (.writeDataSubmit bidx buf), answer)]) =
      awaited (history ++ [(.ftdi .a (.writeDataSubmit bidx buf), answer)]) ++
        (if answer.ret = 0 then none
          else some (answer.ret, bidx)).toList.map Prod.fst := by
    rw [started_append, awaited_append, paired]
    by_cases failed : answer.ret = 0 <;>
      simp [started, awaited, startedBy, awaitedBy, failed]
  constructor
  · exact run_concat going.accepted (if_pos ⟨none', filled⟩)
  · rw [submitted_append]
    simpa [submitted, handedOver] using handed
  · exact paired'
  · exact ordered_concat going.ordered paired'

/-- Stores into a buffer that no transfer uses. -/
theorem Going.fill (going : Going image history log state) {bidx : Nat}
    (spares : state.Spares bidx) (inside : bidx < 2) {buf : List UInt8}
    (fits : buf.length ≤ 4096) :
    ∃ next,
      Going image history (log ++ (Upload.fill bidx 0 buf).map Sum.inr) next ∧
        next.outstanding = state.outstanding ∧
        ∀ index < buf.length, next.buf bidx index = buf[index]? := by
  obtain ⟨next, stored, outstanding, -, filled⟩ :=
    run_fill spares inside buf 0 (by rwa [Nat.zero_add])
  refine ⟨next, ?_, outstanding, ?_⟩
  · constructor
    · exact run_append_eq_some_iff.mpr ⟨state, going.accepted, stored⟩
    · exact going.handed
    · rw [outstanding]
      exact going.paired
    · exact going.ordered
  · intro index inRange
    have same := filled index inRange
    rwa [Nat.zero_add] at same

/-- Calls that have nothing to do with transfers. -/
theorem Going.unrelated (going : Going image history log state)
    {calls : List (Call × Answer)}
    (unrelated : ∀ entry ∈ calls, Unrelated entry.1) :
    Going image (history ++ calls) (log ++ calls.map Sum.inl) state ∧
      submitted (history ++ calls) = submitted history := by
  induction calls generalizing history log with
  | nil => simpa using going
  | cons entry rest ih =>
      obtain ⟨call, answer⟩ := entry
      obtain ⟨handed, starts, waits, watched⟩ :=
        unrelated_cases (unrelated (call, answer) List.mem_cons_self) answer
      have same : submitted (history ++ [(call, answer)]) =
          submitted history := by
        rw [submitted_append]
        simp [submitted, handed]
      have paired : started (history ++ [(call, answer)]) =
          awaited (history ++ [(call, answer)]) ++
            state.outstanding.toList.map Prod.fst := by
        rw [started_append, awaited_append, going.paired]
        simp [started, awaited, starts, waits]
      have next : Going image (history ++ [(call, answer)])
          (log ++ [.inl (call, answer)]) state := by
        constructor
        · exact run_concat going.accepted (watched state)
        · rw [same]
          exact going.handed
        · exact paired
        · exact ordered_concat going.ordered paired
      obtain ⟨finished, same'⟩ := ih next fun later member =>
        unrelated later (List.mem_cons_of_mem _ member)
      rw [List.append_assoc, List.singleton_append, List.append_assoc,
        List.singleton_append] at finished
      rw [List.append_assoc, List.singleton_append] at same'
      exact ⟨finished, same'.trans same⟩

end Going

/-! ## What holds at the end -/

/-- Either the whole image has been handed over, or a transfer has failed. -/
def Settled (image : List UInt8) (history : List (Call × Answer)) : Prop :=
  submitted history = image ∨ ∃ entry ∈ history, TransferFails entry

/-- A failure leaves no transfer behind. -/
def Uploads {α : Type} (image : List UInt8)
    (Returned : α → List (Call × Answer) → Watch → Prop) :
    Post Call Answer (Memory × UploadLog) α
  | .returned value, history, state =>
      ∃ watched, Going image history state.2 watched ∧
        Returned value history watched
  | .stopped .failed, history, state =>
      ∃ watched, Going image history state.2 watched ∧
        watched.outstanding = none ∧ Settled image history
  | .stopped _, history, state =>
      ∃ watched, Going image history state.2 watched

/-- The rule for one part of an upload after another. -/
theorem uploads_bind {α β : Type} {image : List UInt8}
    {Returned : α → List (Call × Answer) → Watch → Prop}
    {Returned' : β → List (Call × Answer) → Watch → Prop}
    {first : LoggedAction α} {next : α → LoggedAction β}
    {history : List (Call × Answer)} {state : Memory × UploadLog}
    (meets : first.Meets (Uploads image Returned) history state)
    (following :
      ∀ value history memory log watched, Going image history log watched →
        Returned value history watched →
        (next value).Meets (Uploads image Returned') history (memory, log)) :
    (first >>= next).Meets (Uploads image Returned') history state := by
  refine Program.meets_bind (meets.mono fun ending history state holds => ?_)
  cases ending with
  | returned value =>
      obtain ⟨watched, going, returned⟩ := holds
      exact following value history state.1 state.2 watched going returned
  | stopped stop => cases stop <;> exact holds

section Loop

variable {image : List UInt8} {history : List (Call × Answer)}
  {log : UploadLog} {state : Watch} {memory : Memory}

/-- The wait for the transfer under way. -/
theorem transferDone_uploads (going : Going image history log state)
    {tc : Int} (outstanding : state.outstanding.map Prod.fst = some tc) :
    (Program.observe (transferDone tc)).Meets
      (Uploads image fun _ history' watched =>
        submitted history' = submitted history ∧
          watched.buf = state.buf ∧ watched.outstanding = none)
      history (memory, log) := by
  apply Program.meets_observe
  refine Program.meets_bind_call ?_ fun answer => ?_
  · refine ⟨state, ?_⟩
    simpa using going
  · have waited := going.wait outstanding answer
    split
    · rename_i failed
      refine Program.meets_bind_modify (Program.meets_fail ?_)
      have last : (Call.ftdi .a (.transferDataDone tc), answer) ∈
          history ++ [(.ftdi .a (.transferDataDone tc), answer)] :=
        List.mem_append_right _ (List.mem_singleton_self _)
      exact ⟨_, waited, rfl, .inr ⟨_, last, failed⟩⟩
    · refine Program.meets_pure ⟨_, waited, ?_, rfl, rfl⟩
      simp [submitted, handedOver]

theorem previousDone_uploads (going : Going image history log state)
    {tc : Int}
    (outstanding : state.outstanding.map Prod.fst =
      if tc = 0 then none else some tc) :
    (Program.observe (previousDone tc)).Meets
      (Uploads image fun _ history' watched =>
        submitted history' = submitted history ∧
          watched.buf = state.buf ∧ watched.outstanding = none)
      history (memory, log) := by
  rw [previousDone]
  split
  · rename_i under
    rw [if_neg under] at outstanding
    exact transferDone_uploads going outstanding
  · rename_i first
    rw [if_pos (not_not.mp first), Option.map_eq_none_iff] at outstanding
    apply Program.meets_observe
    refine Program.meets_pure ⟨state, ?_, ?_, rfl, outstanding⟩
    · simpa using going
    · simp

/-- The loop, from any round on. -/
theorem submitAll_uploads (bidx : Nat) (tc : Int) (data : List UInt8)
    {history : List (Call × Answer)} {log : UploadLog} {state : Watch}
    {memory : Memory} (inside : bidx < 2)
    (going : Going image history log state)
    (outstanding : state.outstanding =
      if tc = 0 then none else some (tc, (bidx + 1) % 2))
    (left : submitted history ++ data.map bitreverse8 = image) :
    (loggedSubmitAll bidx tc data).Meets
      (Uploads image fun last history' watched =>
        submitted history' = image ∧
          (watched.outstanding.map Prod.fst =
            if last = 0 then none else some last) ∧
          (tc ≠ 0 ∨ data ≠ [] → last ≠ 0))
      history (memory, log) := by
  have transfer : state.outstanding.map Prod.fst =
      if tc = 0 then none else some tc := by
    rw [outstanding]
    split <;> rfl
  rw [loggedSubmitAll]
  split
  · rename_i done
    rw [done, List.map_nil, List.append_nil] at left
    refine Program.meets_pure ⟨state, going, left, transfer, ?_⟩
    rintro (under | more)
    · exact under
    · exact absurd done more
  · rename_i more
    -- the buffer that is filled is not the one under way
    have spares : state.Spares bidx := by
      intro used member
      rw [outstanding] at member
      split at member
      · cases member
      · cases member
        show (bidx + 1) % 2 ≠ bidx
        omega
    have fits : ((data.take 4096).map bitreverse8).length ≤ 4096 := by
      rw [List.length_map, List.length_take]
      exact Nat.min_le_left _ _
    obtain ⟨filled, going, same, contents⟩ := going.fill spares inside fits
    rw [← same] at transfer
    have parts : data.map bitreverse8 =
        (data.take 4096).map bitreverse8 ++
          (data.drop 4096).map bitreverse8 := by
      rw [← List.map_append, List.take_append_drop]
    rw [parts, ← List.append_assoc] at left
    refine Program.meets_note_bind
      (uploads_bind (previousDone_uploads going transfer) ?_)
    rintro ⟨⟩ history' memory' log' ready going ⟨handed, buf, spared⟩
    rw [← handed] at left
    rw [← buf] at contents
    refine Program.meets_bind_observe_call ⟨ready, going⟩ fun answer => ?_
    have going := going.submit spared contents ⟨_, left⟩ answer
    split
    · rename_i failed
      rw [if_pos failed] at going
      apply Program.meets_observe
      refine Program.meets_bind_modify (Program.meets_fail ?_)
      rw [List.append_nil, List.map_nil, List.append_nil]
      have last : (Call.ftdi .a (.writeDataSubmit bidx
            ((data.take 4096).map bitreverse8)), answer) ∈
          history' ++ [(.ftdi .a (.writeDataSubmit bidx
            ((data.take 4096).map bitreverse8)), answer)] :=
        List.mem_append_right _ (List.mem_singleton_self _)
      exact ⟨_, going, rfl, .inr ⟨_, last, failed⟩⟩
    · rename_i succeeded
      rw [if_neg succeeded] at going
      have back : ((bidx + 1) % 2 + 1) % 2 = bidx := by omega
      refine (submitAll_uploads ((bidx + 1) % 2) answer.ret
        (data.drop 4096) (Nat.mod_lt _ Nat.two_pos) going ?_ ?_).mono ?_
      · rw [if_neg succeeded, back]
      · rw [submitted_append]
        simpa [submitted, handedOver] using left
      · rintro (last | stop) _ _ holds
        · obtain ⟨watched, going, all, transfer, nonzero⟩ := holds
          exact ⟨watched, going, all, transfer,
            fun _ => nonzero (.inl succeeded)⟩
        · cases stop <;> exact holds
termination_by data.length
decreasing_by exact length_drop_lt ‹_›

end Loop

/-! ## The function -/

/-- The calls of a start-up have nothing to do with transfers. -/
theorem unrelated_startUp :
    StartUpUpkeep fun calls _ => ∀ entry ∈ calls, Unrelated entry.1 where
  write answer unrelated entry member := by
    rcases List.mem_append.mp member with earlier | last
    · exact unrelated entry earlier
    · cases List.mem_singleton.mp last
      trivial
  chb :=
    { call := fun answer _ unrelated entry member => by
        rcases List.mem_append.mp member with earlier | last
        · exact unrelated entry earlier
        · cases List.mem_singleton.mp last
          trivial
      fail := fun _ unrelated => unrelated }
  fail _ unrelated := unrelated

theorem startUp_uploads {image : List UInt8} {history : List (Call × Answer)}
    {memory : Memory} {log : UploadLog} {state : Watch}
    (going : Going image history log state) (all : submitted history = image)
    (spared : state.outstanding = none) :
    (Program.observe startUp).Meets
      (Uploads image fun _ history watched =>
        submitted history = image ∧ watched.outstanding = none)
      history (memory, log) := by
  apply Program.meets_observe
  have keeps := startUp_upholds unrelated_startUp [] memory
    fun entry member => by cases member
  refine keeps.mono fun ending calls memory unrelated => ?_
  have unrelated' : ∀ entry ∈ calls, Unrelated entry.1 := by
    cases ending with
    | returned value => exact unrelated
    | stopped stop => cases stop <;> exact unrelated
  obtain ⟨finished, same⟩ := going.unrelated unrelated'
  rw [all] at same
  cases ending with
  | returned value => exact ⟨state, finished, same, spared⟩
  | stopped stop =>
      cases stop with
      | failed => exact ⟨state, finished, spared, .inl same⟩
      | aborted => exact ⟨state, finished⟩
      | waiting query => exact ⟨state, finished⟩

/-- The byte with its bits in the opposite order. -/
def reversed (byte : UInt8) : UInt8 :=
  ⟨byte.toBitVec.reverse⟩

/-- The table is right. -/
theorem bitreverse8_eq : ∀ byte, bitreverse8 byte = reversed byte := by
  decide +kernel

/-- What is to be written to the FPGA: the bits of each byte are reversed. -/
def imageOf (memory : Memory) : List UInt8 :=
  (bytes memory.bit memory.bit.size).map reversed

theorem imageOf_eq (memory : Memory) :
    (bytes memory.bit memory.bit.size).map bitreverse8 = imageOf memory :=
  List.map_congr_left fun byte _ => bitreverse8_eq byte

theorem loadFirmware_uploads (memory : Memory)
    (nonempty : bytes memory.bit memory.bit.size ≠ []) :
    loggedLoadFirmware.Meets
      (Uploads (imageOf memory) fun _ history watched =>
        submitted history = imageOf memory ∧ watched.outstanding = none)
      [] (memory, []) := by
  refine Program.meets_bind (Program.meets_observe (Program.meets_get ?_))
  refine uploads_bind (submitAll_uploads 0 0
    (bytes memory.bit memory.bit.size) Nat.two_pos
    (going_idle (imageOf memory)) rfl (imageOf_eq memory)) ?_
  rintro tc history memory log watched going ⟨all, transfer, nonzero⟩
  rw [if_neg (nonzero (.inr nonempty))] at transfer
  refine uploads_bind (transferDone_uploads going transfer) ?_
  rintro ⟨⟩ history' memory log watched going ⟨same, -, spared⟩
  exact startUp_uploads going (same.trans all) spared

/-- The log of an upload. -/
def uploadLog (memory : Memory) (script : List Answer) : UploadLog :=
  (loggedLoadFirmware.run (memory, []) script).state.2

/-- The calls of `bitLoadFirmware`, with the log that the watch looks at. -/
theorem going_loadFirmware (memory : Memory) (script : List Answer)
    (nonempty : bytes memory.bit memory.bit.size ≠ []) :
    ∃ watched,
      Going (imageOf memory) (bitLoadFirmware.run memory script).calls
          (uploadLog memory script) watched ∧
        ((bitLoadFirmware.run memory script).ending = .returned ⟨⟩ ∨
            (bitLoadFirmware.run memory script).ending = .stopped .failed →
          watched.outstanding = none ∧
            Settled (imageOf memory)
              (bitLoadFirmware.run memory script).calls) := by
  have uploads := loadFirmware_uploads memory nonempty script
  rw [List.nil_append, erases_loadFirmware.calls,
    erases_loadFirmware.ending] at uploads
  cases ended : (bitLoadFirmware.run memory script).ending with
  | returned value =>
      rw [ended] at uploads
      obtain ⟨watched, going, all, spared⟩ := uploads
      exact ⟨watched, going, fun _ => ⟨spared, .inl all⟩⟩
  | stopped stop =>
      rw [ended] at uploads
      cases stop with
      | failed =>
          obtain ⟨watched, going, spared, settled⟩ := uploads
          exact ⟨watched, going, fun _ => ⟨spared, settled⟩⟩
      | aborted | waiting query =>
          obtain ⟨watched, going⟩ := uploads
          refine ⟨watched, going, ?_⟩
          rintro (ended | ended) <;> cases ended

/--
An upload of at least one byte.  The log holds the calls of `bitLoadFirmware`
and accords with the watch.  What is handed over is the image, up to a failed
transfer.  The transfers have been waited for, each of them once and in order,
but for the one under way, and a function that returns leaves none behind.
-/
theorem upload_safe (memory : Memory) (script : List Answer)
    (nonempty : bytes memory.bit memory.bit.size ≠ []) :
    (uploadLog memory script).calls =
        (bitLoadFirmware.run memory script).calls ∧
      submitted (bitLoadFirmware.run memory script).calls <+:
        imageOf memory ∧
      ∃ watched, run watch idle (uploadLog memory script) = some watched ∧
        started (bitLoadFirmware.run memory script).calls =
          awaited (bitLoadFirmware.run memory script).calls ++
            watched.outstanding.toList.map Prod.fst ∧
        ((bitLoadFirmware.run memory script).ending = .returned ⟨⟩ ∨
            (bitLoadFirmware.run memory script).ending = .stopped .failed →
          watched.outstanding = none ∧
            ((∀ entry ∈ (bitLoadFirmware.run memory script).calls,
                ¬ TransferFails entry) →
              submitted (bitLoadFirmware.run memory script).calls =
                imageOf memory)) := by
  obtain ⟨watched, going, settled⟩ :=
    going_loadFirmware memory script nonempty
  refine ⟨erases_loadFirmware.log memory [] script, going.handed, watched,
    going.accepted, going.paired, fun ended => ?_⟩
  obtain ⟨spared, all | ⟨entry, member, failed⟩⟩ := settled ended
  · exact ⟨spared, fun _ => all⟩
  · exact ⟨spared, fun succeeded => absurd failed (succeeded entry member)⟩

/-- A bitstream of one byte. -/
def oneByte : Memory :=
  { Memory.zeroed with
    bit := ⟨[0x80], 0, 1, 0, 0, 0, 0, 1, ErrorStr.garbage⟩ }

/-- Its transfer fails, but it has been waited for. -/
theorem upload_safe_oneByte :
    ∃ watched,
      run watch idle (uploadLog oneByte [counted 7, counted (-1)]) =
          some watched ∧
        watched.outstanding = none := by
  obtain ⟨-, -, watched, accepted, -, settled⟩ :=
    upload_safe oneByte [counted 7, counted (-1)] (by decide)
  refine ⟨watched, accepted, (settled (.inr ?_)).1⟩
  decide +kernel

end OpenVizsla.Device.Upload
