import Mathlib
import OpenVizsla.Foundation.Runs
import OpenVizsla.Extcap.FilterSteps

/-!
# The filter as a rule about windows

What the filter drops, without a state machine: the packets of a transaction
that ends with NAK, and every SOF that does not come in the middle of a
transaction.  Whether a packet is dropped can be seen from its neighbours.

The filter agrees with the rule after every packet.  The queue holds the
packets of a transaction that has begun; they are written unless NAK follows.
-/

namespace OpenVizsla.Extcap.WindowRule

open OpenVizsla.Foundation.Runs
open OpenVizsla.Extcap.Filter
open OpenVizsla.Extcap.FilterSteps

/-! ## The rule -/

/-- The transactions with their NAK. -/
def windows : List (List UInt8) :=
  transactions.map (· ++ [usbPidHandshakeNak])

/-- The packets end with `body`, and no SPLIT stands before it. -/
def EndsUnsplit (body pids : List UInt8) : Prop :=
  body <:+ pids ∧
    ¬ [usbPidSpecialSplit] <:+ pids.take (pids.length - body.length)

instance (body pids : List UInt8) : Decidable (EndsUnsplit body pids) :=
  inferInstanceAs (Decidable (_ ∧ _))

/-- The packet belongs to a window; `stop` is the end of the window. -/
def InWindow (pids : List UInt8) (index : Nat) : Prop :=
  ∃ stop, stop ≤ pids.length ∧ ∃ window ∈ windows,
    EndsUnsplit window (pids.take stop) ∧
      stop ≤ index + window.length ∧ index < stop

/-- The packets end with a transaction that a NAK would complete. -/
def Answerable (pids : List UInt8) : Prop :=
  ∃ body ∈ transactions, EndsUnsplit body pids

/-- The packets end inside a transaction. -/
def InTransaction (pids : List UInt8) : Prop :=
  EndsUnsplit [usbPidTokenOut] pids ∨ Answerable pids

/-- A SOF that neither follows a SPLIT nor interrupts a transaction. -/
def IsLoneSof (pids : List UInt8) (index : Nat) : Prop :=
  pids[index]? = some usbPidTokenSof ∧
    ¬ [usbPidSpecialSplit] <:+ pids.take index ∧
    ¬ InTransaction (pids.take index)

/-- The packets that the filter drops. -/
def Dropped (naks sofs : Bool) (pids : List UInt8) (index : Nat) : Prop :=
  naks = true ∧ InWindow pids index ∨ sofs = true ∧ IsLoneSof pids index

instance (pids : List UInt8) (index : Nat) :
    Decidable (InWindow pids index) :=
  inferInstanceAs (Decidable (∃ stop, stop ≤ _ ∧ _))

instance (pids : List UInt8) : Decidable (Answerable pids) :=
  inferInstanceAs (Decidable (∃ body ∈ transactions, _))

instance (pids : List UInt8) : Decidable (InTransaction pids) :=
  inferInstanceAs (Decidable (_ ∨ _))

instance (pids : List UInt8) (index : Nat) :
    Decidable (IsLoneSof pids index) :=
  inferInstanceAs (Decidable (_ ∧ _ ∧ _))

instance (naks sofs : Bool) (pids : List UInt8) (index : Nat) :
    Decidable (Dropped naks sofs pids index) :=
  inferInstanceAs (Decidable (_ ∨ _))

/-- The packets that are left, in order. -/
def kept (naks sofs : Bool) (packets : List PcapPacket) : List PcapPacket :=
  (packets.zipIdx.filter fun entry =>
    !decide (Dropped naks sofs (packets.map PcapPacket.pid) entry.2)).map
      Prod.fst

/-! ## One more packet -/

theorem endsUnsplit_iff {body pids : List UInt8} :
    EndsUnsplit body pids ↔
      ∃ first, pids = first ++ body ∧ ¬ [usbPidSpecialSplit] <:+ first := by
  constructor
  · rintro ⟨⟨first, rfl⟩, unsplit⟩
    refine ⟨first, rfl, ?_⟩
    rwa [List.length_append, Nat.add_sub_cancel, List.take_left] at unsplit
  · rintro ⟨first, rfl, unsplit⟩
    refine ⟨List.suffix_append first body, ?_⟩
    rwa [List.length_append, Nat.add_sub_cancel, List.take_left]

theorem endsUnsplit_nil {pids : List UInt8} :
    EndsUnsplit [] pids ↔ ¬ [usbPidSpecialSplit] <:+ pids := by
  simp [EndsUnsplit]

theorem endsUnsplit_concat {body pids : List UInt8} {last pid : UInt8} :
    EndsUnsplit (body ++ [last]) (pids ++ [pid]) ↔
      pid = last ∧ EndsUnsplit body pids := by
  simp only [endsUnsplit_iff, ← List.append_assoc, List.append_singleton_inj]
  constructor
  · rintro ⟨first, ⟨split, same⟩, unsplit⟩
    exact ⟨same, first, split, unsplit⟩
  · rintro ⟨same, first, split, unsplit⟩
    exact ⟨first, ⟨split, same⟩, unsplit⟩

theorem endsUnsplit_singleton {pids : List UInt8} {last pid : UInt8} :
    EndsUnsplit [last] (pids ++ [pid]) ↔
      pid = last ∧ ¬ [usbPidSpecialSplit] <:+ pids := by
  rw [← endsUnsplit_nil, ← endsUnsplit_concat, List.nil_append]

theorem splitLast_concat {pids : List UInt8} {pid : UInt8} :
    [usbPidSpecialSplit] <:+ pids ++ [pid] ↔ pid = usbPidSpecialSplit := by
  have single : [usbPidSpecialSplit] = [] ++ [usbPidSpecialSplit] := rfl
  rw [single, List.suffix_append_inj_of_length_eq (by rfl)]
  simp [eq_comm]

theorem answerable_concat {pids : List UInt8} {pid : UInt8} :
    Answerable (pids ++ [pid]) ↔
      (pid = usbPidTokenIn ∨ pid = usbPidSpecialPing) ∧
          ¬ [usbPidSpecialSplit] <:+ pids ∨
        (pid = usbPidDataData0 ∨ pid = usbPidDataData1) ∧
          EndsUnsplit [usbPidTokenOut] pids := by
  have data (last : UInt8) :
      EndsUnsplit [usbPidTokenOut, last] (pids ++ [pid]) ↔
        pid = last ∧ EndsUnsplit [usbPidTokenOut] pids := by
    rw [← endsUnsplit_concat, List.singleton_append]
  simp only [Answerable, transactions, List.mem_cons, List.not_mem_nil,
    or_false, exists_eq_or_imp, exists_eq_left, endsUnsplit_singleton, data]
  tauto

/-- A window ends with this packet. -/
theorem exists_window_concat {pids : List UInt8} {pid : UInt8} :
    (∃ window ∈ windows, EndsUnsplit window (pids ++ [pid])) ↔
      pid = usbPidHandshakeNak ∧ Answerable pids := by
  simp only [windows, List.mem_map, exists_exists_and_eq_and,
    endsUnsplit_concat, Answerable]
  tauto

section Concat

variable {pids : List UInt8} {pid : UInt8} {index : Nat}

/-- A later packet changes what is dropped only by completing a window. -/
theorem inWindow_concat
    (incomplete : ¬ (pid = usbPidHandshakeNak ∧ Answerable pids)) :
    InWindow (pids ++ [pid]) index ↔ InWindow pids index := by
  constructor
  · rintro ⟨stop, within, window, member, ends, bounds⟩
    rcases Nat.lt_or_ge pids.length stop with last | earlier
    · have whole : (pids ++ [pid]).take stop = pids ++ [pid] :=
        List.take_of_length_le (by simp; omega)
      rw [whole] at ends
      exact absurd (exists_window_concat.mp ⟨window, member, ends⟩)
        incomplete
    · rw [List.take_append_of_le_length earlier] at ends
      exact ⟨stop, earlier, window, member, ends, bounds⟩
  · rintro ⟨stop, within, window, member, ends, bounds⟩
    refine ⟨stop, ?_, window, member, ?_, bounds⟩
    · rw [List.length_append]
      omega
    · rwa [List.take_append_of_le_length within]

theorem isLoneSof_append (inside : index < pids.length)
    (later : List UInt8) :
    IsLoneSof (pids ++ later) index ↔ IsLoneSof pids index := by
  rw [IsLoneSof, IsLoneSof, List.getElem?_append_left inside,
    List.take_append_of_le_length inside.le]

theorem inWindow_last :
    InWindow (pids ++ [pid]) pids.length ↔
      pid = usbPidHandshakeNak ∧ Answerable pids := by
  rw [← exists_window_concat]
  constructor
  · rintro ⟨stop, within, window, member, ends, -, behind⟩
    have whole : (pids ++ [pid]).take stop = pids ++ [pid] :=
      List.take_of_length_le (by simp; omega)
    rw [whole] at ends
    exact ⟨window, member, ends⟩
  · rintro ⟨window, member, ends⟩
    have whole : (pids ++ [pid]).take (pids.length + 1) = pids ++ [pid] :=
      List.take_of_length_le (by simp)
    have positive : ∀ window ∈ windows, 1 ≤ window.length := by decide
    refine ⟨pids.length + 1, by simp, window, member, ?_, ?_, by omega⟩
    · rwa [whole]
    · have long := positive window member
      omega

theorem isLoneSof_last :
    IsLoneSof (pids ++ [pid]) pids.length ↔
      pid = usbPidTokenSof ∧ ¬ [usbPidSpecialSplit] <:+ pids ∧
        ¬ InTransaction pids := by
  simp [IsLoneSof]

end Concat

/-! ## What is left -/

section Kept

variable {naks sofs : Bool}

/-- What is left of the beginning does not change with more packets. -/
theorem kept_append {first rest : List PcapPacket}
    (stable : ∀ index < first.length,
      (Dropped naks sofs ((first ++ rest).map PcapPacket.pid) index ↔
        Dropped naks sofs (first.map PcapPacket.pid) index)) :
    kept naks sofs (first ++ rest) =
      kept naks sofs first ++
        ((rest.zipIdx first.length).filter fun entry =>
          !decide (Dropped naks sofs ((first ++ rest).map PcapPacket.pid)
            entry.2)).map Prod.fst := by
  rw [kept, List.zipIdx_append, List.filter_append, List.map_append,
    Nat.zero_add]
  congr 1
  rw [kept]
  congr 1
  refine List.filter_congr fun entry member => ?_
  have inside := (List.mem_zipIdx' member).1
  simp only [stable entry.2 inside]

/-- A packet that does not complete a window leaves the others alone. -/
theorem kept_concat {packets : List PcapPacket} {packet : PcapPacket}
    (incomplete : ¬ (naks = true ∧ packet.pid = usbPidHandshakeNak ∧
      Answerable (packets.map PcapPacket.pid))) :
    kept naks sofs (packets ++ [packet]) =
      kept naks sofs packets ++
        if sofs = true ∧ packet.pid = usbPidTokenSof ∧
            ¬ [usbPidSpecialSplit] <:+ packets.map PcapPacket.pid ∧
            ¬ InTransaction (packets.map PcapPacket.pid)
        then [] else [packet] := by
  have length : (packets.map PcapPacket.pid).length = packets.length :=
    List.length_map _
  have last : Dropped naks sofs ((packets ++ [packet]).map PcapPacket.pid)
        packets.length ↔
      sofs = true ∧ packet.pid = usbPidTokenSof ∧
        ¬ [usbPidSpecialSplit] <:+ packets.map PcapPacket.pid ∧
        ¬ InTransaction (packets.map PcapPacket.pid) := by
    rw [List.map_append, List.map_singleton, Dropped, ← length,
      inWindow_last, isLoneSof_last]
    tauto
  rw [kept_append]
  · rw [List.zipIdx_singleton, List.filter_singleton]
    by_cases dropped : Dropped naks sofs
        ((packets ++ [packet]).map PcapPacket.pid) packets.length
    · rw [if_pos (last.mp dropped), decide_eq_true dropped]
      rfl
    · rw [if_neg (last.not.mp dropped), decide_eq_false dropped]
      rfl
  · intro index inside
    rw [← length] at inside
    rw [List.map_append, List.map_singleton, Dropped, Dropped,
      isLoneSof_append inside]
    by_cases filtering : naks = true
    · rw [inWindow_concat]
      exact fun complete => incomplete ⟨filtering, complete⟩
    · simp [filtering]

/-- No window is a proper end of another one. -/
theorem window_of_suffix : ∀ window ∈ windows, ∀ window' ∈ windows,
    window <:+ window' → window = window' := by
  decide

/-- A window ends with its only NAK. -/
theorem window_of_beginning : ∀ window ∈ windows, ∀ part ∈ window.inits,
    [usbPidHandshakeNak] <:+ part → part = window := by
  decide

theorem window_ends : ∀ window ∈ windows,
    [usbPidHandshakeNak] <:+ window := by
  decide

/-- A window behind other packets leaves these alone. -/
theorem inWindow_append {pids window : List UInt8} {index : Nat}
    (member : window ∈ windows) (inside : index < pids.length) :
    InWindow (pids ++ window) index ↔ InWindow pids index := by
  constructor
  · rintro ⟨stop, within, window', member', ends, from', bound⟩
    rcases Nat.lt_or_ge pids.length stop with beyond | earlier
    · exfalso
      have split : (pids ++ window).take stop =
          pids ++ window.take (stop - pids.length) := by
        rw [List.take_append, List.take_of_length_le beyond.le]
      rw [split] at ends
      have nak := (window_ends window' member').trans ends.1
      have short : 1 ≤ (window.take (stop - pids.length)).length := by
        rw [List.length_append] at within
        rw [List.length_take]
        omega
      have part : [usbPidHandshakeNak] <:+
          window.take (stop - pids.length) :=
        List.suffix_of_suffix_length_le nak (List.suffix_append _ _) short
      have complete := window_of_beginning window member _
        ((List.mem_inits _ _).mpr (List.take_prefix _ _)) part
      rw [complete] at ends
      have same : window' = window := by
        rcases List.suffix_or_suffix_of_suffix ends.1
            (List.suffix_append pids window) with left | right
        · exact window_of_suffix window' member' window member left
        · exact (window_of_suffix window member window' member' right).symm
      have long := congrArg List.length complete
      rw [List.length_take] at long
      rw [same] at from'
      omega
    · rw [List.take_append_of_le_length earlier] at ends
      exact ⟨stop, earlier, window', member', ends, from', bound⟩
  · rintro ⟨stop, within, window', member', ends, bounds⟩
    refine ⟨stop, ?_, window', member', ?_, bounds⟩
    · rw [List.length_append]
      omega
    · rwa [List.take_append_of_le_length within]

/-- The packets of a complete window are dropped. -/
theorem kept_window {first window : List PcapPacket}
    (member : window.map PcapPacket.pid ∈ windows)
    (unsplit : ¬ [usbPidSpecialSplit] <:+ first.map PcapPacket.pid) :
    kept true sofs (first ++ window) = kept true sofs first := by
  rw [kept_append]
  · rw [List.append_right_eq_self, List.map_eq_nil_iff, List.filter_eq_nil_iff]
    intro entry inWindow
    obtain ⟨from', bound⟩ := List.mem_zipIdx inWindow
    have dropped : Dropped true sofs
        ((first ++ window).map PcapPacket.pid) entry.2 := by
      refine .inl ⟨rfl, first.length + window.length, ?_, _, member, ?_, ?_⟩
      · rw [List.length_map, List.length_append]
      · rw [List.take_of_length_le (by simp), List.map_append,
          endsUnsplit_iff]
        exact ⟨_, rfl, unsplit⟩
      · rw [List.length_map]
        exact ⟨by omega, bound.1⟩
    rw [decide_eq_true dropped]
    decide
  · intro index inside
    have length : (first.map PcapPacket.pid).length = first.length :=
      List.length_map _
    rw [← length] at inside
    rw [List.map_append, Dropped, Dropped, isLoneSof_append inside,
      inWindow_append member inside]

end Kept

/-! ## The state of the filter -/

/-- The state of the filter is a function of the last packets. -/
structure Tracks (st : FilterState) (pids : List UInt8) : Prop where
  split : st = .split ↔ [usbPidSpecialSplit] <:+ pids
  out : st = .out ↔ EndsUnsplit [usbPidTokenOut] pids
  expectNak : st = .expectNak ↔ Answerable pids

theorem tracks_nil : Tracks .default [] := by
  constructor <;> decide

theorem Tracks.next {st : FilterState} {pids : List UInt8}
    (tracks : Tracks st pids) (pid : UInt8) :
    Tracks (nextState st pid) (pids ++ [pid]) := by
  obtain ⟨split, out, expectNak⟩ := nextState_spec st pid
  constructor
  · rw [split, splitLast_concat]
  · rw [out, endsUnsplit_singleton, Ne, tracks.split]
  · rw [expectNak, answerable_concat, Ne, tracks.split, tracks.out]

/-- The filter is in its default state outside of transactions. -/
theorem Tracks.default_iff {st : FilterState} {pids : List UInt8}
    (tracks : Tracks st pids) :
    st = .default ↔
      ¬ [usbPidSpecialSplit] <:+ pids ∧ ¬ InTransaction pids := by
  have transaction : InTransaction pids ↔ st = .out ∨ st = .expectNak := by
    rw [tracks.out, tracks.expectNak]
    rfl
  rw [transaction, ← tracks.split]
  cases st <;> simp

/-- What the rule makes of one more packet. -/
theorem Tracks.kept (naks sofs : Bool) {st : FilterState}
    {packets : List PcapPacket} {packet : PcapPacket}
    (tracks : Tracks st (packets.map PcapPacket.pid))
    (incomplete : ¬ (naks = true ∧ packet.pid = usbPidHandshakeNak ∧
      st = .expectNak)) :
    kept naks sofs (packets ++ [packet]) =
      kept naks sofs packets ++
        if sofs = true ∧ packet.pid = usbPidTokenSof ∧ st = .default
        then [] else [packet] := by
  rw [tracks.expectNak] at incomplete
  rw [kept_concat incomplete]
  simp only [tracks.default_iff]

/-! ## The filter -/

/--
What the filter has done with `settled ++ pending`.  The packets in `pending`
are in the queue.
-/
structure Filters (base : List UInt8) (data : HandlerData)
    (settled pending : List PcapPacket) : Prop where
  sound : Sound data.out
  contents : data.out.contents =
    base ++ (kept data.filterNaks data.filterSofs settled).flatMap record
  queue : data.queue = pending.map record
  left : kept data.filterNaks data.filterSofs (settled ++ pending) =
    kept data.filterNaks data.filterSofs settled ++ pending
  tracks : Tracks data.st ((settled ++ pending).map PcapPacket.pid)
  empty : data.st = .default ∨ data.st = .split → pending = []
  out : data.st = .out → pending.map PcapPacket.pid = [usbPidTokenOut]
  transaction : data.st = .expectNak →
    pending.map PcapPacket.pid ∈ transactions
  unsplit : pending ≠ [] →
    ¬ [usbPidSpecialSplit] <:+ settled.map PcapPacket.pid

section Steps

variable {base : List UInt8} {data : HandlerData}
  {settled pending : List PcapPacket} {packet : PcapPacket}

theorem Filters.forwardQueue (filters : Filters base data settled pending) :
    Sound (forwardQueuedPackets data).out ∧
      (forwardQueuedPackets data).out.contents =
        base ++ (kept data.filterNaks data.filterSofs
          (settled ++ pending)).flatMap record := by
  have nonempty : ∀ entry ∈ data.queue, entry ≠ [] := by
    rw [filters.queue]
    simp [record_ne_nil]
  obtain ⟨sound, contents⟩ := forwardQueued_sound filters.sound nonempty
  refine ⟨sound, contents.trans ?_⟩
  rw [filters.contents, filters.queue, filters.left, List.flatMap_append,
    List.append_assoc]
  rfl

/-- The queue is written, and then the packet. -/
theorem Filters.forward (filters : Filters base data settled pending)
    (nonempty : packet.Nonempty)
    (left : kept data.filterNaks data.filterSofs
        (settled ++ pending ++ [packet]) =
      kept data.filterNaks data.filterSofs (settled ++ pending) ++ [packet])
    (still : nextState data.st packet.pid = .default ∨
      nextState data.st packet.pid = .split) :
    Filters base
      { forwardPacket packet (forwardQueuedPackets data) with
        st := nextState data.st packet.pid }
      (settled ++ pending ++ [packet]) [] := by
  obtain ⟨sound, contents⟩ := filters.forwardQueue
  obtain ⟨sound', contents'⟩ := writePacket_sound sound nonempty
  have tracks := filters.tracks.next packet.pid
  constructor
  · exact sound'
  · refine contents'.trans ?_
    change _ = base ++ (kept data.filterNaks data.filterSofs
      (settled ++ pending ++ [packet])).flatMap record
    rw [contents, left, List.flatMap_append, List.flatMap_singleton,
      List.append_assoc]
  · rfl
  · simp
  · simpa using tracks
  · exact fun _ => rfl
  · intro (other : nextState data.st packet.pid = .out)
    simp [other] at still
  · intro (other : nextState data.st packet.pid = .expectNak)
    simp [other] at still
  · exact fun absent => absurd rfl absent

/-- The queue is written, and the packet is put into it. -/
theorem Filters.queueToken (filters : Filters base data settled pending)
    (left : kept data.filterNaks data.filterSofs
        (settled ++ pending ++ [packet]) =
      kept data.filterNaks data.filterSofs (settled ++ pending) ++ [packet])
    (unsplit : data.st ≠ .split)
    (next : nextState data.st packet.pid = .out ∧
        packet.pid = usbPidTokenOut ∨
      nextState data.st packet.pid = .expectNak ∧
        [packet.pid] ∈ transactions) :
    Filters base
      { queuePacket packet (forwardQueuedPackets data) with
        st := nextState data.st packet.pid }
      (settled ++ pending) [packet] := by
  obtain ⟨sound, contents⟩ := filters.forwardQueue
  have tracks := filters.tracks.next packet.pid
  constructor
  · exact sound
  · exact contents
  · rfl
  · exact left
  · simpa using tracks
  · intro (other : nextState data.st packet.pid = .default ∨
      nextState data.st packet.pid = .split)
    rcases next with ⟨same, -⟩ | ⟨same, -⟩ <;> simp [same] at other
  · intro (out : nextState data.st packet.pid = .out)
    rcases next with ⟨-, token⟩ | ⟨same, -⟩
    · rw [List.map_singleton, token]
    · simp [same] at out
  · intro (expectNak : nextState data.st packet.pid = .expectNak)
    rcases next with ⟨same, -⟩ | ⟨-, token⟩
    · simp [same] at expectNak
    · exact token
  · intro _ split
    exact unsplit (filters.tracks.split.mpr split)

/-- The packet is put into the queue, behind the token. -/
theorem Filters.queueData (filters : Filters base data settled pending)
    (left : kept data.filterNaks data.filterSofs
        (settled ++ pending ++ [packet]) =
      kept data.filterNaks data.filterSofs (settled ++ pending) ++ [packet])
    (out : data.st = .out)
    (next : nextState data.st packet.pid = .expectNak)
    (answerable : [usbPidTokenOut, packet.pid] ∈ transactions) :
    Filters base
      { queuePacket packet data with st := nextState data.st packet.pid }
      settled (pending ++ [packet]) := by
  have tracks := filters.tracks.next packet.pid
  have token := filters.out out
  constructor
  · exact filters.sound
  · exact filters.contents
  · rw [List.map_append, ← filters.queue]
    rfl
  · rw [← List.append_assoc]
    refine left.trans ?_
    rw [filters.left, List.append_assoc]
    rfl
  · rw [← List.append_assoc, List.map_append]
    exact tracks
  · intro (other : nextState data.st packet.pid = .default ∨
      nextState data.st packet.pid = .split)
    simp [next] at other
  · intro (other : nextState data.st packet.pid = .out)
    simp [next] at other
  · intro _
    rw [List.map_append, token]
    exact answerable
  · intro _
    refine filters.unsplit ?_
    rintro rfl
    cases token

/-- A SOF between two transactions is dropped. -/
theorem Filters.dropSof (filters : Filters base data settled pending)
    (left : kept data.filterNaks data.filterSofs
        (settled ++ pending ++ [packet]) =
      kept data.filterNaks data.filterSofs (settled ++ pending))
    (default : data.st = .default)
    (next : nextState data.st packet.pid = .default) :
    Filters base data (settled ++ pending ++ [packet]) [] := by
  have tracks := filters.tracks.next packet.pid
  have empty := filters.empty (.inl default)
  have queue := filters.queue
  rw [next, ← default] at tracks
  subst empty
  constructor
  · exact filters.sound
  · rw [left, List.append_nil]
    exact filters.contents
  · exact queue
  · simp
  · simpa using tracks
  · exact fun _ => rfl
  · intro other
    simp [default] at other
  · intro other
    simp [default] at other
  · exact fun absent => absurd rfl absent

/-- The transaction is dropped together with its NAK. -/
theorem Filters.dropWindow (filters : Filters base data settled pending)
    (filtering : data.filterNaks = true) (expectNak : data.st = .expectNak)
    (nak : packet.pid = usbPidHandshakeNak) :
    Filters base
      { freeQueuedPackets data with st := nextState data.st packet.pid }
      (settled ++ pending ++ [packet]) [] := by
  have tracks := filters.tracks.next packet.pid
  have member : (pending ++ [packet]).map PcapPacket.pid ∈ windows := by
    rw [List.map_append, List.map_singleton, nak]
    exact List.mem_map.mpr ⟨_, filters.transaction expectNak, rfl⟩
  have some' : pending ≠ [] := by
    rintro rfl
    have absent : [] ∉ transactions := by decide
    exact absent (filters.transaction expectNak)
  have window : kept true data.filterSofs (settled ++ (pending ++ [packet])) =
      kept true data.filterSofs settled :=
    kept_window member (filters.unsplit some')
  have next : nextState data.st packet.pid = .default := by
    rw [nak, expectNak]
    decide
  constructor
  · exact filters.sound
  · change data.out.contents = base ++ (kept data.filterNaks data.filterSofs
      (settled ++ pending ++ [packet])).flatMap record
    rw [List.append_assoc, filtering, window, ← filtering]
    exact filters.contents
  · rfl
  · rw [List.append_nil, List.append_nil]
  · simpa using tracks
  · exact fun _ => rfl
  · intro (other : nextState data.st packet.pid = .out)
    simp [next] at other
  · intro (other : nextState data.st packet.pid = .expectNak)
    simp [next] at other
  · exact fun absent => absurd rfl absent

/-- The queue is empty between transactions and behind a SPLIT. -/
theorem Filters.idle (filters : Filters base data settled pending)
    (rest : data.st = .default ∨ data.st = .split) : data.queue = [] := by
  rw [filters.queue, filters.empty rest]
  rfl

/-- The queue is empty outside of transactions. -/
theorem Filters.pending_eq_nil_iff
    (filters : Filters base data settled pending) :
    pending = [] ↔
      ¬ InTransaction ((settled ++ pending).map PcapPacket.pid) := by
  have transaction : InTransaction
        ((settled ++ pending).map PcapPacket.pid) ↔
      data.st = .out ∨ data.st = .expectNak := by
    rw [filters.tracks.out, filters.tracks.expectNak]
    rfl
  rw [transaction]
  constructor
  · rintro rfl (out | expectNak)
    · cases filters.out out
    · exact absurd (filters.transaction expectNak) (by decide)
  · intro idle
    apply filters.empty
    cases state : data.st <;> simp [state] at idle ⊢

theorem Filters.disposes (filters : Filters base data settled pending) :
    Disposes packet data (filterBranches packet data) :=
  disposes_filterBranches filters.idle

theorem Filters.asserted (filters : Filters base data settled pending)
    (nonempty : packet.Nonempty) : Asserted packet data :=
  ⟨fun default => filters.idle (.inl default),
    fun split => filters.idle (.inr split), nonempty⟩

/-- One packet. -/
theorem Filters.step (filters : Filters base data settled pending)
    (nonempty : packet.Nonempty) :
    ∃ settled' pending',
      settled' ++ pending' = settled ++ pending ++ [packet] ∧
        Filters base (filterBranches packet data) settled' pending' := by
  have rule (incomplete : ¬ (data.filterNaks = true ∧
      packet.pid = usbPidHandshakeNak ∧ data.st = .expectNak)) :=
    filters.tracks.kept data.filterNaks data.filterSofs incomplete
  have disposes : Disposes packet data (filterBranches packet data) :=
    filters.disposes
  generalize filterBranches packet data = after at disposes ⊢
  cases disposes with
  | forward next notLone incomplete =>
      have left := rule incomplete
      rw [if_neg notLone] at left
      exact ⟨_, [], List.append_nil _, filters.forward nonempty left next⟩
  | dropSof filtering sof default =>
      have left := rule fun nak => by simp [default] at nak
      rw [if_pos ⟨filtering, sof, default⟩, List.append_nil] at left
      exact ⟨_, [], List.append_nil _,
        filters.dropSof left default (if_pos sof)⟩
  | queueToken unsplit next =>
      obtain ⟨notSof, notNak⟩ :=
        token_ne packet.pid (next.imp And.right And.right)
      have left := rule fun nak => notNak nak.2.1
      rw [if_neg fun lone => notSof lone.2.1] at left
      exact ⟨_, [packet], rfl, filters.queueToken left unsplit next⟩
  | queueData out next answerable =>
      have left := rule fun nak => by simp [out] at nak
      rw [if_neg fun lone => by simp [out] at lone] at left
      exact ⟨settled, pending ++ [packet], (List.append_assoc _ _ _).symm,
        filters.queueData left out next answerable⟩
  | dropWindow filtering expectNak nak =>
      exact ⟨_, [], List.append_nil _,
        filters.dropWindow filtering expectNak nak⟩

/-- One packet, with the assertions. -/
theorem Filters.accepts (filters : Filters base data settled pending)
    (nonempty : packet.Nonempty) :
    ∃ next settled' pending',
      filterPacket data packet = some next ∧
        settled' ++ pending' = settled ++ pending ++ [packet] ∧
        Filters base next settled' pending' ∧
        next.filterNaks = data.filterNaks ∧
        next.filterSofs = data.filterSofs := by
  have disposes : Disposes packet data (filterBranches packet data) :=
    filters.disposes
  obtain ⟨naks, sofs⟩ := disposes.filters
  obtain ⟨settled', pending', split, filters'⟩ := filters.step nonempty
  exact ⟨_, settled', pending', if_pos (filters.asserted nonempty), split,
    filters', naks, sofs⟩

end Steps

/-- Before the first packet. -/
theorem filters_initial {data : HandlerData} (sound : Sound data.out)
    (initial : data.st = .default) (empty : data.queue = []) :
    Filters data.out.contents data [] [] := by
  constructor
  · exact sound
  · exact (List.append_nil _).symm
  · exact empty
  · rfl
  · rw [initial]
    exact tracks_nil
  · exact fun _ => rfl
  · simp [initial]
  · simp [initial]
  · exact fun absent => absurd rfl absent

/-- Any number of packets: no assertion fails. -/
theorem filters_run {base : List UInt8} {data : HandlerData}
    {settled pending packets : List PcapPacket}
    (filters : Filters base data settled pending)
    (nonempty : ∀ packet ∈ packets, packet.Nonempty) :
    ∃ finish settled' pending',
      run filterPacket data packets = some finish ∧
        settled' ++ pending' = settled ++ pending ++ packets ∧
        Filters base finish settled' pending' ∧
        finish.filterNaks = data.filterNaks ∧
        finish.filterSofs = data.filterSofs := by
  induction packets generalizing data settled pending with
  | nil =>
      exact ⟨data, settled, pending, rfl, (List.append_nil _).symm, filters,
        rfl, rfl⟩
  | cons packet rest ih =>
      obtain ⟨next, settled', pending', accepted, split, filters', naks,
        sofs⟩ := filters.accepts (nonempty packet List.mem_cons_self)
      obtain ⟨finish, settled'', pending'', reached, all, filters'', naks',
        sofs'⟩ := ih filters' fun later member =>
          nonempty later (List.mem_cons_of_mem packet member)
      refine ⟨finish, settled'', pending'', ?_, ?_, filters'',
        naks'.trans naks, sofs'.trans sofs⟩
      · exact run_cons_eq_some_iff.mpr ⟨next, accepted, reached⟩
      · rw [all, split, List.append_assoc, List.singleton_append]

/-- The records of packets that are written one after the other. -/
theorem writePackets_sound {out : Output} (sound : Sound out)
    {packets : List PcapPacket}
    (nonempty : ∀ packet ∈ packets, packet.Nonempty) :
    (packets.foldl (fun out packet => writePacket packet out) out).contents =
      out.contents ++ packets.flatMap record := by
  induction packets generalizing out with
  | nil => exact (List.append_nil _).symm
  | cons packet rest ih =>
      obtain ⟨written, contents⟩ :=
        writePacket_sound sound (nonempty packet List.mem_cons_self)
      rw [List.foldl_cons, ih written fun later member =>
          nonempty later (List.mem_cons_of_mem packet member),
        contents, List.append_assoc, List.flatMap_cons]

theorem mem_of_kept {naks sofs : Bool} {packets : List PcapPacket}
    {packet : PcapPacket} (member : packet ∈ kept naks sofs packets) :
    packet ∈ packets := by
  obtain ⟨entry, left, rfl⟩ := List.mem_map.mp member
  exact List.fst_mem_of_mem_zipIdx (List.mem_of_mem_filter left)

/-- Without filters, all packets are left. -/
theorem kept_unfiltered (packets : List PcapPacket) :
    kept false false packets = packets := by
  simp [kept, Dropped]

/--
From the initial state of the filter, and as long as all writes succeed, the
file followed by the queue is what `write_packet` makes of the packets that
the rule leaves, for any packets and both settings.  Without filters, the rule
leaves all packets, and closing the capture writes what is queued.
-/
theorem filter_eq_rule {data : HandlerData} (sound : Sound data.out)
    (initial : data.st = .default) (empty : data.queue = [])
    {packets : List PcapPacket}
    (nonempty : ∀ packet ∈ packets, packet.Nonempty) :
    ∃ finish, run filterPacket data packets = some finish ∧
      finish.out.contents ++ finish.queue.flatten =
        ((kept data.filterNaks data.filterSofs packets).foldl
          (fun out packet => writePacket packet out) data.out).contents ∧
      (data.filterNaks = false → data.filterSofs = false →
        kept data.filterNaks data.filterSofs packets = packets ∧
          (discardQueuedPackets finish).out.contents =
            (packets.foldl (fun out packet => writePacket packet out)
              data.out).contents) := by
  have start := filters_initial sound initial empty
  obtain ⟨finish, settled, pending, reached, all, filters, naks, sofs⟩ :=
    filters_run start nonempty
  have all' : settled ++ pending = packets := by simpa using all
  have written := filters.forwardQueue.2
  rw [all', naks, sofs] at written
  have left (packet : PcapPacket)
      (member : packet ∈ kept data.filterNaks data.filterSofs packets) :
      packet.Nonempty := nonempty packet (mem_of_kept member)
  refine ⟨finish, reached, ?_, fun noNaks noSofs => ⟨?_, ?_⟩⟩
  · rw [writePackets_sound sound left, filters.contents, filters.queue,
      ← List.flatMap_def, List.append_assoc, ← List.flatMap_append,
      ← filters.left, all', naks, sofs]
  · rw [noNaks, noSofs, kept_unfiltered]
  · rw [discardQueuedPackets, naks, noNaks]
    rw [noNaks, noSofs, kept_unfiltered] at written
    rw [writePackets_sound sound nonempty]
    exact written

/-- A filter in its initial state, with a file on which no call fails. -/
def idleHandler (naks sofs : Bool) : HandlerData where
  out := ⟨true, [], 0, fun _ => true⟩
  debug := ⟨false, [], 0, fun _ => true⟩
  utcTs := 0
  tsOffset := 0
  lastOvTs := 0
  filterNaks := naks
  filterSofs := sofs
  st := .default
  queue := []

/-- A packet that consists of its identifier. -/
def barePacket (pid : UInt8) : PcapPacket :=
  ⟨0, 0, 1, 1, [pid]⟩

/-- Two times IN and NAK, the second time behind SPLIT. -/
def twoPolls : List PcapPacket :=
  [usbPidTokenIn, usbPidHandshakeNak, usbPidSpecialSplit, usbPidTokenIn,
    usbPidHandshakeNak].map barePacket

/-- The first IN is dropped with its NAK. -/
theorem filter_eq_rule_twoPolls :
    ∃ finish,
      run filterPacket (idleHandler true true) twoPolls = some finish ∧
        finish.out.contents ++ finish.queue.flatten =
          (twoPolls.drop 2).flatMap record := by
  have sound : Sound (idleHandler true true).out := ⟨rfl, fun _ => rfl⟩
  have nonempty : ∀ packet ∈ twoPolls, packet.Nonempty := by
    simp [twoPolls, PcapPacket.Nonempty, barePacket]
  obtain ⟨finish, reached, rule, -⟩ := filter_eq_rule sound rfl rfl nonempty
  refine ⟨finish, reached, rule.trans ?_⟩
  decide +kernel

end OpenVizsla.Extcap.WindowRule
