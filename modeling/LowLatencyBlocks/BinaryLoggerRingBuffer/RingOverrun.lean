import LowLatencyBlocks.Library.Lossy
import LowLatencyBlocks.Library.Machine
import LowLatencyBlocks.BinaryLoggerRingBuffer.RingBuffer

/-!
# The ring buffer under overruns

Complete pushes and complete pops, one after another, with no bound on the
pushes.  A push into a full buffer overwrites the oldest value, but nothing
moves `read_index_` past it: the next pop is still made at the slot of the pops
so far.  That slot holds the oldest stored value when the number of values lost
is a multiple of the capacity, and a newer one otherwise.
-/

namespace LowLatencyBlocks

open Library

namespace RingBuffer

variable {T : Type}

/-- `*push_into() = value; move_write_index();`. -/
def push (ring : RingBuffer T) (value : T) : RingBuffer T :=
  (ring.writeSlot ring.pushInto value).moveWriteIndex

/-- Read `*pop_next()` and call `move_read_index()`. -/
def pop (ring : RingBuffer T) : Except Fault (T × RingBuffer T) := do
  let value ← vectorAt ring.buffer ring.popNext
  return (value, ring.moveReadIndex)

/-- The buffer with the values pushed and popped so far. -/
structure Used (T : Type) where
  ring : RingBuffer T
  pushed : List T
  popped : List T
  deriving DecidableEq, Repr

namespace Used

def start (capacity : Capacity) (default : T) : Used T where
  ring := make capacity default
  pushed := []
  popped := []

def afterPush (used : Used T) (value : T) : Used T where
  ring := used.ring.push value
  pushed := used.pushed ++ [value]
  popped := used.popped

def afterPop (used : Used T) (ring : RingBuffer T) (value : T) :
    Used T where
  ring := ring
  pushed := used.pushed
  popped := used.popped ++ [value]

/-- One call.  A pop is made only when `size()` is positive. -/
def step (used : Used T) : Lossy.Call T → Option (Used T)
  | .push value => some (used.afterPush value)
  | .pop =>
      if used.ring.size = 0 then
        none
      else
        match used.ring.pop with
        | .ok (value, ring) => some (used.afterPop ring value)
        | .error _ => none

/-- What the counts of pushes and pops say about the buffer. -/
structure Counted (capacity : Capacity) (used : Used T) : Prop where
  tracks :
    Tracks capacity used.ring used.pushed used.pushed.length
      used.pushed.length used.popped.length
      (used.pushed.length - used.popped.length)
  order : used.popped.length ≤ used.pushed.length

/-- The position, among the pushes, of the value that the next pop finds. -/
def nextPosition (capacity : Capacity) (used : Used T) : Nat :=
  newest capacity.size used.popped.length used.pushed.length

namespace Counted

variable {capacity : Capacity} {used : Used T}

theorem start (capacity : Capacity) (default : T) :
    Counted capacity (Used.start capacity default) where
  tracks := Tracks.make capacity default
  order := Nat.le_refl 0

theorem popped_lt
    (counted : Counted capacity used) (nonzero : used.ring.size ≠ 0) :
    used.popped.length < used.pushed.length :=
  Nat.lt_of_sub_pos (counted.tracks.count_pos_of_size_ne_zero nonzero)

theorem push (counted : Counted capacity used) (value : T) :
    Counted capacity (used.afterPush value) where
  tracks := by
    have pushed :=
      ((counted.tracks.writeSlot value).storeWriteIndex).incrementSize
    rw [← Nat.sub_add_comm counted.order] at pushed
    rw [afterPush, List.length_append]
    exact pushed
  order := by
    simp only [afterPush, List.length_append]
    exact Nat.le_trans counted.order (Nat.le_add_right _ _)

/-- The slot that a pop reads holds the newest value written to it. -/
theorem slot_found
    (counted : Counted capacity used)
    (before : used.popped.length < used.pushed.length) :
    used.ring.buffer[used.ring.popNext]? =
      used.pushed[used.nextPosition capacity]? :=
  counted.tracks.found (newest_lt before)
    (newest_recent capacity.positive) (newest_mod before)

theorem popped
    (counted : Counted capacity used)
    (before : used.popped.length < used.pushed.length) (value : T) :
    Counted capacity (used.afterPop used.ring.moveReadIndex value) where
  tracks := by
    have released :=
      (counted.tracks.storeReadIndex).decrementSize (by omega)
    rw [Nat.sub_sub] at released
    rw [afterPop, List.length_append]
    exact released
  order := by
    simp only [afterPop, List.length_append]
    exact before

/-- A pop that is made returns the newest value of its slot. -/
theorem pop_returns
    (counted : Counted capacity used) (nonzero : used.ring.size ≠ 0) :
    ∃ value,
      used.pushed[used.nextPosition capacity]? = some value ∧
      step used .pop =
        some (used.afterPop used.ring.moveReadIndex value) := by
  have before := counted.popped_lt nonzero
  have inside : used.nextPosition capacity < used.pushed.length :=
    newest_lt before
  have found := counted.slot_found before
  rw [List.getElem?_eq_getElem inside] at found
  refine ⟨_, List.getElem?_eq_getElem inside, ?_⟩
  simp only [step, if_neg nonzero, RingBuffer.pop,
    vectorAt_eq_ok_iff.mpr found]
  rfl

/-- What one call can do. -/
theorem step_cases
    (counted : Counted capacity used)
    {call : Lossy.Call T} {after : Used T}
    (stepped : step used call = some after) :
    (∃ value, call = .push value ∧ after = used.afterPush value) ∨
    (call = .pop ∧
      used.popped.length < used.pushed.length ∧
      ∃ value,
        used.pushed[used.nextPosition capacity]? = some value ∧
        after = used.afterPop used.ring.moveReadIndex value) := by
  cases call with
  | push value =>
      exact .inl ⟨value, rfl, (Option.some.inj stepped).symm⟩
  | pop =>
      have nonzero : used.ring.size ≠ 0 := by
        intro empty
        simp [step, empty] at stepped
      obtain ⟨value, found, popped⟩ := counted.pop_returns nonzero
      rw [popped] at stepped
      exact
        .inr ⟨rfl, counted.popped_lt nonzero, value, found,
          (Option.some.inj stepped).symm⟩

end Counted

/-! ## The buffer beside the lossy queue -/

/-- The slot of the next pop holds the oldest stored value of the queue. -/
def InPhase (size : Nat) (queue : Lossy T) : Prop :=
  queue.stored ≠ [] ∧ size ∣ queue.lost

instance [DecidableEq T] (size : Nat) (queue : Lossy T) :
    Decidable (InPhase size queue) :=
  inferInstanceAs (Decidable (_ ∧ _))

/-- Before every pop the queue of `size` values, run on the calls so far, stores
a value and has lost whole laps of the slots. -/
def WholeLaps (size : Nat) (calls : List (Lossy.Call T)) : Prop :=
  ∀ earlier later,
    calls = earlier ++ .pop :: later →
    InPhase size (Lossy.run size earlier)

theorem wholeLaps_nil (size : Nat) :
    WholeLaps size ([] : List (Lossy.Call T)) := by
  intro earlier later cut
  simp at cut

theorem wholeLaps_append_singleton
    {size : Nat} {calls : List (Lossy.Call T)} {call : Lossy.Call T} :
    WholeLaps size (calls ++ [call]) ↔
      WholeLaps size calls ∧
        (call = .pop → InPhase size (Lossy.run size calls)) := by
  constructor
  · intro laps
    constructor
    · intro earlier later cut
      apply laps earlier (later ++ [call])
      rw [cut, List.append_assoc, List.cons_append]
    · rintro rfl
      exact laps calls [] rfl
  · rintro ⟨laps, last⟩ earlier later cut
    rcases cut_append_singleton cut with
      ⟨_, isPop, rfl⟩ | ⟨shorter, _, rfl⟩
    · exact last isPop
    · exact laps earlier shorter rfl

/-- The buffer and the queue after the same calls. -/
structure Beside
    (capacity : Capacity) (calls : List (Lossy.Call T))
    (used : Used T) : Prop where
  counted : Counted capacity used
  pushed : used.pushed = (Lossy.run capacity.size calls).pushed
  /-- The queue, which may be empty when the buffer pops, never takes more. -/
  ahead :
    (Lossy.run capacity.size calls).taken.length ≤ used.popped.length

namespace Beside

variable {capacity : Capacity} {calls : List (Lossy.Call T)}
  {used : Used T}

theorem start (capacity : Capacity) (default : T) :
    Beside capacity [] (Used.start capacity default) where
  counted := Counted.start capacity default
  pushed := rfl
  ahead := Nat.le_refl 0

theorem accounted (capacity : Capacity) (calls : List (Lossy.Call T)) :
    (Lossy.run capacity.size calls).Accounted capacity.size :=
  Lossy.Accounted.run capacity.positive calls

theorem push (beside : Beside capacity calls used) (value : T) :
    Beside capacity (calls ++ [.push value]) (used.afterPush value) := by
  have sameTaken := Lossy.push_taken capacity.size
    (Lossy.run capacity.size calls) value
  have samePushed := Lossy.push_pushed capacity.size
    (Lossy.run capacity.size calls) value
  refine ⟨beside.counted.push value, ?_, ?_⟩
  · rw [Lossy.run_append_singleton, Lossy.next, samePushed,
      ← beside.pushed]
    rfl
  · rw [Lossy.run_append_singleton, Lossy.next, sameTaken]
    exact beside.ahead

theorem pop
    (beside : Beside capacity calls used)
    (before : used.popped.length < used.pushed.length) (value : T) :
    Beside capacity (calls ++ [.pop])
      (used.afterPop used.ring.moveReadIndex value) := by
  have ahead := beside.ahead
  refine ⟨beside.counted.popped before value, ?_, ?_⟩
  · rw [Lossy.run_append_singleton, Lossy.next, Lossy.pop_pushed,
      ← beside.pushed]
    rfl
  · rw [Lossy.run_append_singleton, Lossy.next, afterPop,
      List.length_append, List.length_singleton]
    cases stored : (Lossy.run capacity.size calls).stored with
    | nil =>
        rw [Lossy.pop_taken_of_empty stored]
        exact Nat.le_succ_of_le ahead
    | cons oldest rest =>
        rw [Lossy.pop_taken_of_cons stored, List.length_append,
          List.length_singleton]
        exact Nat.succ_le_succ ahead

/-- In phase, the pop finds what the queue takes. -/
theorem pop_agrees
    (beside : Beside capacity calls used)
    (same : used.popped = (Lossy.run capacity.size calls).taken)
    (inPhase : InPhase capacity.size (Lossy.run capacity.size calls))
    (before : used.popped.length < used.pushed.length)
    {value : T}
    (found : used.pushed[used.nextPosition capacity]? = some value) :
    used.popped ++ [value] =
      (Lossy.run capacity.size (calls ++ [.pop])).taken := by
  obtain ⟨nonempty, laps⟩ := inPhase
  obtain ⟨oldest, rest, stored⟩ := List.exists_cons_of_ne_nil nonempty
  have account := accounted capacity calls
  have total := account.total
  have bound := account.bound
  have oldestAt := account.oldest stored
  rw [stored, List.length_cons, ← same, ← beside.pushed] at total
  rw [stored, List.length_cons] at bound
  rw [← same, ← beside.pushed] at oldestAt
  have slot :
      ((Lossy.run capacity.size calls).lost + used.popped.length) %
          capacity.size =
        used.popped.length % capacity.size := by
    obtain ⟨turns, lost⟩ := laps
    rw [lost, Nat.mul_add_mod]
  have throughRing :
      used.pushed[used.nextPosition capacity]? =
        used.pushed[(Lossy.run capacity.size calls).lost +
          used.popped.length]? := by
    rw [← beside.counted.slot_found before]
    exact beside.counted.tracks.found (by omega) (by omega) slot
  have sameValue : value = oldest := by
    rw [found, oldestAt] at throughRing
    exact Option.some.inj throughRing
  rw [Lossy.run_append_singleton, Lossy.next,
    Lossy.pop_taken_of_cons stored, same, sameValue]

/-- When no two pushes have the same value, a pop agrees with the queue only in
phase. -/
theorem inPhase_of_pop_agrees
    (beside : Beside capacity calls used)
    (distinct : used.pushed.Nodup)
    (before : used.popped.length < used.pushed.length)
    {value : T}
    (found : used.pushed[used.nextPosition capacity]? = some value)
    (agrees :
      used.popped ++ [value] =
        (Lossy.run capacity.size (calls ++ [.pop])).taken) :
    used.popped = (Lossy.run capacity.size calls).taken ∧
      InPhase capacity.size (Lossy.run capacity.size calls) := by
  rw [Lossy.run_append_singleton, Lossy.next] at agrees
  cases stored : (Lossy.run capacity.size calls).stored with
  | nil =>
      -- the buffer has popped more than the queue has taken
      rw [Lossy.pop_taken_of_empty stored] at agrees
      have ahead := beside.ahead
      rw [← agrees, List.length_append, List.length_singleton] at ahead
      omega
  | cons oldest rest =>
      rw [Lossy.pop_taken_of_cons stored] at agrees
      obtain ⟨same, sameLast⟩ := List.append_inj' agrees rfl
      have sameValue : value = oldest := List.singleton_inj.mp sameLast
      have oldestAt := (accounted capacity calls).oldest stored
      rw [← same, ← beside.pushed, ← sameValue] at oldestAt
      have samePosition :
          used.nextPosition capacity =
            (Lossy.run capacity.size calls).lost +
              used.popped.length :=
        (List.getElem?_inj (newest_lt before) distinct).mp
          (found.trans oldestAt.symm)
      have slot :
          used.nextPosition capacity % capacity.size =
            used.popped.length % capacity.size :=
        newest_mod before
      rw [samePosition] at slot
      have laps :=
        dvd_sub_of_mod_eq slot.symm (Nat.le_add_left _ _)
      rw [Nat.add_sub_cancel] at laps
      refine ⟨same, ?_, laps⟩
      rw [stored]
      exact List.cons_ne_nil _ _

end Beside

/-! ## Runs -/

section Runs

variable {capacity : Capacity} {default : T}
  {calls : List (Lossy.Call T)} {used : Used T}

theorem Beside.call
    (beside : Beside capacity calls used)
    {call : Lossy.Call T} {after : Used T}
    (stepped : step used call = some after) :
    Beside capacity (calls ++ [call]) after := by
  obtain ⟨value, rfl, rfl⟩ | ⟨rfl, before, value, _, rfl⟩ :=
    beside.counted.step_cases stepped
  · exact beside.push value
  · exact beside.pop before value

/-- A run in phase takes what the queue takes. -/
theorem popped_of_wholeLaps
    (executed : exec step calls (start capacity default) = some used) :
    Beside capacity calls used ∧
      (WholeLaps capacity.size calls →
        used.popped = (Lossy.run capacity.size calls).taken) := by
  refine exec_induction
    (fun calls used =>
      Beside capacity calls used ∧
        (WholeLaps capacity.size calls →
          used.popped = (Lossy.run capacity.size calls).taken))
    ⟨Beside.start capacity default, fun _ => rfl⟩ ?_ executed
  rintro calls used call after ⟨beside, agrees⟩ stepped
  refine ⟨beside.call stepped, ?_⟩
  intro laps
  obtain ⟨earlier, last⟩ := wholeLaps_append_singleton.mp laps
  have same := agrees earlier
  obtain ⟨value, rfl, rfl⟩ | ⟨rfl, before, value, found, rfl⟩ :=
    beside.counted.step_cases stepped
  · rw [Lossy.run_append_singleton, Lossy.next, Lossy.push_taken]
    exact same
  · exact beside.pop_agrees same (last rfl) before found

/-- A run of distinct pushes that takes what the queue takes is in phase. -/
theorem wholeLaps_of_popped
    (executed : exec step calls (start capacity default) = some used) :
    Beside capacity calls used ∧
      (used.pushed.Nodup →
        used.popped = (Lossy.run capacity.size calls).taken →
        WholeLaps capacity.size calls) := by
  refine exec_induction
    (fun calls used =>
      Beside capacity calls used ∧
        (used.pushed.Nodup →
          used.popped = (Lossy.run capacity.size calls).taken →
          WholeLaps capacity.size calls))
    ⟨Beside.start capacity default, fun _ _ => wholeLaps_nil _⟩ ?_
    executed
  rintro calls used call after ⟨beside, inPhase⟩ stepped
  refine ⟨beside.call stepped, ?_⟩
  intro distinct agrees
  rw [wholeLaps_append_singleton]
  obtain ⟨value, rfl, rfl⟩ | ⟨rfl, before, value, found, rfl⟩ :=
    beside.counted.step_cases stepped
  · rw [Lossy.run_append_singleton, Lossy.next, Lossy.push_taken]
      at agrees
    have distinctBefore : used.pushed.Nodup :=
      distinct.sublist (List.sublist_append_left _ _)
    refine ⟨inPhase distinctBefore agrees, ?_⟩
    intro isPop
    cases isPop
  · obtain ⟨same, last⟩ :=
      beside.inPhase_of_pop_agrees distinct before found agrees
    exact ⟨inPhase distinct same, fun _ => last⟩

/-- When the buffer is a lossy queue, for every run.  The converse is about
pushes of distinct values, since equal ones can hide a wrong slot. -/
theorem lossy_order_iff
    (capacity : Capacity) (default : T) (calls : List (Lossy.Call T))
    (used : Used T)
    (executed : exec step calls (start capacity default) = some used) :
    (WholeLaps capacity.size calls →
      used.popped = (Lossy.run capacity.size calls).taken ∧
        (used.popped ++ (Lossy.run capacity.size calls).stored).Sublist
          used.pushed ∧
        (Lossy.run capacity.size calls).stored <:+ used.pushed) ∧
    (used.pushed.Nodup →
      used.popped = (Lossy.run capacity.size calls).taken →
      WholeLaps capacity.size calls) := by
  obtain ⟨beside, agrees⟩ := popped_of_wholeLaps executed
  obtain ⟨_, inPhase⟩ := wholeLaps_of_popped executed
  have account := Beside.accounted capacity calls
  refine ⟨?_, inPhase⟩
  intro laps
  have same := agrees laps
  rw [same, beside.pushed]
  exact ⟨rfl, account.order, account.stored_suffix⟩

end Runs

/-- Four pushes into two slots lose one lap; the pop is in phase. -/
theorem lossy_order_sample :
    ∃ used,
      exec step [.push 0, .push 1, .push 2, .push 3, .pop]
        (start twoSlots 9) = some used ∧
      used.popped =
        (Lossy.run 2
          [.push 0, .push 1, .push 2, .push 3, .pop]).taken := by
  have laps :
      WholeLaps 2 [.push 0, .push 1, .push 2, .push 3, .pop] := by
    rw [show [.push 0, .push 1, .push 2, .push 3, .pop] =
      [.push 0, .push 1, .push 2, .push 3] ++ [Lossy.Call.pop] from rfl]
    refine wholeLaps_append_singleton.mpr ⟨?_, fun _ => by decide⟩
    intro earlier later cut
    have pops : Lossy.Call.pop ∈ earlier ++ .pop :: later :=
      List.mem_append_right _ List.mem_cons_self
    rw [← cut] at pops
    simp at pops
  obtain ⟨agrees, _⟩ :=
    lossy_order_iff twoSlots 9
      [.push 0, .push 1, .push 2, .push 3, .pop] _ rfl
  exact ⟨_, rfl, (agrees laps).1⟩

/-- The calls of `RingBuffer_Test`. -/
def ringBufferTest : List (Lossy.Call Nat) :=
  [.push 0, .push 1, .push 2, .push 3, .push 4, .push 5, .push 6,
    .pop, .pop, .pop]

def fiveSlots : Capacity :=
  ⟨5, by decide, by decide⟩

/-- `RingBuffer_Test` prints 5, 6 and 2 where a lossy queue has 2, 3 and 4. -/
theorem ringBufferTest_reorders :
    ∃ used,
      exec step ringBufferTest (start fiveSlots 0) = some used ∧
      used.popped = [5, 6, 2] ∧
      (Lossy.run 5 ringBufferTest).taken = [2, 3, 4] ∧
      ¬ used.popped.Sublist used.pushed := by
  refine ⟨_, rfl, rfl, rfl, ?_⟩
  decide

end Used

end RingBuffer

end LowLatencyBlocks
