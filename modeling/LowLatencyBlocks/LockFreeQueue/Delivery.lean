import LowLatencyBlocks.Library.Fifo
import LowLatencyBlocks.LockFreeQueue.Interleaving

/-!
# What the interleaved queue delivers

While one slot stays unused, that is with at most `capacity - 1` unread
elements, the queue with its two threads is a first-in first-out channel: the
slot write is the send, the slot read the receive, and every other step is
invisible.  The consumer's slot is then never written before it is released.

The `ASSERT` of the consumer needs no such bound, only that `store_size_` does
not count to `2 ^ 64`.
-/

namespace LowLatencyBlocks

open Library

namespace LFQueue

/-- The slot pointer that the consumer got and has not yet read through. -/
def Consumer.pointer : Consumer → Option Nat
  | .fetched next => next
  | .admitted slot => some slot
  | _ => none

namespace Spsc

variable {T : Type} {guard : Guard} {self : Nat} {capacity : Capacity}
  {default : T} {state : Spsc T}

/-- How far the producer's three counts can be apart. -/
theorem Consistent.producer_bounds
    (consistent : state.Consistent guard capacity) :
    state.published ≤ state.pushed.length ∧
      state.pushed.length ≤ state.published + 1 ∧
      state.counted ≤ state.published ∧
      state.published ≤ state.counted + 1 := by
  have producer := consistent.producer
  rw [ProducerCounts] at producer
  cases stage : state.producer <;>
    simp only [stage] at producer <;> omega

/-- How far the consumer's three counts can be apart. -/
theorem Consistent.consumer_bounds
    (consistent : state.Consistent guard capacity) :
    state.uncounted ≤ state.released ∧
      state.released ≤ state.uncounted + 1 ∧
      state.released ≤ state.read.length ∧
      state.read.length ≤ state.published := by
  have order := consistent.indexOrder
  have consumer := consistent.consumer
  rw [ConsumerCounts] at consumer
  cases stage : state.consumer <;>
    simp only [stage] at consumer <;> omega

/-- While one slot stays unused the counter does not wrap. -/
theorem Consistent.count_small
    (consistent : state.Consistent guard capacity)
    (bounded : state.UnreadAtMost (capacity.size - 1)) :
    state.counted - state.uncounted < 2 ^ 64 := by
  have producer := consistent.producer_bounds
  have consumer := consistent.consumer_bounds
  have fits := capacity.fits
  have pushes : state.pushed.length ≤ state.released + (capacity.size - 1) :=
    bounded
  omega

theorem Consistent.read_le_pushed
    (consistent : state.Consistent guard capacity) :
    state.read.length ≤ state.pushed.length := by
  have producer := consistent.producer_bounds
  have consumer := consistent.consumer_bounds
  omega

theorem Consistent.pointer_waits
    (consistent : state.Consistent guard capacity) {slot : Nat}
    (held : state.consumer.pointer = some slot) :
    slot = state.released % capacity.size ∧
      state.released < state.published ∧
      state.read.length = state.released := by
  have consumer := consistent.consumer
  rw [ConsumerCounts] at consumer
  cases stage : state.consumer with
  | fetched next =>
      simp only [stage, Consumer.pointer] at held consumer
      obtain ⟨_, taken, pointer⟩ := consumer
      obtain ⟨place, waiting⟩ := pointer slot held
      exact ⟨place, waiting, taken⟩
  | admitted position =>
      simp only [stage, Consumer.pointer, Option.some.injEq]
        at held consumer
      subst held
      obtain ⟨_, taken, place, waiting, _⟩ := consumer
      exact ⟨place, waiting, taken⟩
  | idle | sized _ | taken | released | checked | exited _ =>
      simp [stage, Consumer.pointer] at held

/-- Without an overrun the slot read holds the oldest unread value. -/
theorem Consistent.value_of_pointer
    (consistent : state.Consistent guard capacity)
    (bounded : state.UnreadAtMost (capacity.size - 1))
    {slot : Nat} (held : state.consumer.pointer = some slot)
    {value : T} (reads : vectorAt state.queue.store slot = .ok value) :
    state.pushed[state.read.length]? = some value := by
  obtain ⟨place, waiting, taken⟩ := consistent.pointer_waits held
  have producer := consistent.producer_bounds
  have positive := capacity.positive
  rw [UnreadAtMost] at bounded
  have stored :
      state.queue.store[slot]? = state.pushed[state.released]? := by
    rw [place]
    exact consistent.tracks.slot_value (by omega) (by omega)
  rw [taken, ← stored]
  exact vectorAt_eq_ok_iff.mp reads

/-! ## The channel that a bounded run implements -/

/-- The channel seen through a state: what is pushed and not yet read waits. -/
def channel (state : Spsc T) : Fifo T where
  waiting := state.pushed.drop state.read.length
  sent := state.pushed
  received := state.read

/-- Every step of a bounded run is a step of the channel or invisible. -/
theorem channel_step
    {thread : Thread} {before after : Spsc T}
    (consistent : before.Consistent guard capacity)
    (step : Step guard self thread before after)
    (bounded : after.UnreadAtMost (capacity.size - 1)) :
    after.channel = before.channel ∨
      ∃ event, Fifo.Step event before.channel after.channel := by
  cases step with
  | writeSlot seen value running stage =>
      exact
        Or.inr ⟨.send value,
          Fifo.Step.between_send consistent.read_le_pushed value⟩
  | readSlot slot value stage reads =>
      refine Or.inr ⟨.receive value, ?_⟩
      have oldest : before.pushed[before.read.length]? = some value :=
        consistent.value_of_pointer bounded
          (by rw [stage, Consumer.pointer]) reads
      exact Fifo.Step.between_receive oldest
  | look _ _ _ | storeWriteIndex _ _ | incrementSize _ _ | check _ _
  | storeReadIndex _ | assertHolds _ _ | assertFails _ _ _
  | decrementSize _ =>
      exact Or.inl rfl

/-- A bounded run refines the channel. -/
theorem refines_channel
    (reached :
      (machine guard self capacity default).Reachable
        (Machine.staying (UnreadAtMost (capacity.size - 1))) state) :
    (Fifo.machine T).Reachable Machine.anyStep state.channel := by
  have simulated :=
    reached.simulated
      (Fifo.machine T)
      (fun state image =>
        state.Consistent guard capacity ∧ state.channel = image)
      ⟨consistent_start, rfl⟩
      (by
        rintro thread before after image ⟨consistent, rfl⟩ step bounded
        have consistentAfter := consistent.step step
        rcases channel_step consistent step bounded with
          same | ⟨event, moved⟩
        · exact Or.inl ⟨consistentAfter, same⟩
        · exact Or.inr ⟨event, _, moved, consistentAfter, rfl⟩)
  obtain ⟨image, imageReached, _, same⟩ := simulated
  rw [same]
  exact imageReached

/-! ## Runs of pushes alone -/

/-- What `count` pushes in a row change. -/
structure AfterPushes
    (count : Nat) (before after : Spsc T) : Prop where
  ready : ∃ seen, after.producer = .ready seen
  consumer : after.consumer = before.consumer
  storeSize :
    after.queue.storeSize =
      before.queue.storeSize + BitVec.ofNat 64 count
  published : after.published = before.published + count
  counted : after.counted = before.counted + count
  released : after.released = before.released

private theorem AfterPushes.next
    {count : Nat} {before middle : Spsc T} (value : T)
    (running : before.Running)
    (pushes : AfterPushes count before middle)
    (reached :
      (machine guard self capacity default).Reachable
        Machine.anyStep middle) :
    ∃ after,
      (machine guard self capacity default).Reachable
        Machine.anyStep after ∧
      AfterPushes (count + 1) before after := by
  obtain ⟨seen, ready⟩ := pushes.ready
  have runningMiddle : middle.Running := by
    intro fault
    rw [pushes.consumer]
    exact running fault
  have written :=
    reached.next_any (Step.writeSlot seen value runningMiddle ready)
  have published :=
    written.next_any (Step.storeWriteIndex runningMiddle rfl)
  have counted :=
    published.next_any (Step.incrementSize runningMiddle rfl)
  refine ⟨_, counted, ?_⟩
  exact
    { ready := ⟨none, rfl⟩
      consumer := pushes.consumer
      storeSize := by
        change middle.queue.storeSize + 1 = _
        rw [pushes.storeSize, BitVec.add_assoc, counter_increment]
      published := congrArg (· + 1) pushes.published
      counted := congrArg (· + 1) pushes.counted
      released := pushes.released }

/-- Nothing stops the producer from pushing any number of values. -/
theorem reachable_pushes
    {before : Spsc T} (value : T)
    (reached :
      (machine guard self capacity default).Reachable
        Machine.anyStep before)
    (running : before.Running)
    (ready : ∃ seen, before.producer = .ready seen) (count : Nat) :
    ∃ after,
      (machine guard self capacity default).Reachable
        Machine.anyStep after ∧
      AfterPushes count before after := by
  induction count with
  | zero =>
      exact
        ⟨before, reached,
          { ready := ready
            consumer := rfl
            storeSize := (BitVec.add_zero _).symm
            published := rfl
            counted := rfl
            released := rfl }⟩
  | succ count inductionHypothesis =>
      obtain ⟨middle, middleReached, pushes⟩ := inductionHypothesis
      exact pushes.next value running middleReached

/-! ## The bounded runs -/

/-- The values read are the first values pushed, in the order of pushing. -/
theorem read_prefix_pushed
    (reached :
      (machine guard self capacity default).Reachable
        (Machine.staying (UnreadAtMost (capacity.size - 1))) state) :
    state.read <+: state.pushed :=
  Fifo.received_prefix_sent (refines_channel reached)

/-- A push that keeps within the bound writes another slot than the one the
consumer is about to read. -/
theorem Consistent.push_avoids_pointer
    {thread : Thread} {after : Spsc T}
    (consistent : state.Consistent guard capacity)
    (step : Step guard self thread state after)
    (pushes : after.pushed ≠ state.pushed)
    (bounded : after.UnreadAtMost (capacity.size - 1))
    {slot : Nat} (held : state.consumer.pointer = some slot) :
    state.queue.getNextToWriteTo ≠ slot := by
  obtain ⟨place, waiting, _⟩ := consistent.pointer_waits held
  have positive := capacity.positive
  rw [UnreadAtMost] at bounded
  cases step with
  | writeSlot seen value running stage =>
      have producer := consistent.producer_bounds
      simp only [List.length_append, List.length_singleton] at bounded
      rw [getNextToWriteTo, consistent.tracks.writeIndex, place]
      exact (mod_ne_of_window waiting (by omega)).symm
  | look _ _ _ | storeWriteIndex _ _ | incrementSize _ _ | check _ _
  | readSlot _ _ _ _ | storeReadIndex _ | assertHolds _ _
  | assertFails _ _ _ | decrementSize _ =>
      exact absurd rfl pushes

/-- The `ASSERT` fires only when `store_size_` has counted whole turns of the
word, whatever the number of unread elements. -/
theorem Consistent.exit_counts
    (consistent : state.Consistent guard capacity)
    (checksSize : guard ≠ .pointerOnly) {fault : Fault}
    (exited : state.consumer = .exited fault) :
    2 ^ 64 ≤ state.counted - state.uncounted := by
  have consumer := consistent.consumer
  simp only [ConsumerCounts, exited] at consumer
  obtain ⟨_, _, inSize, turns⟩ := consumer
  have counted := inSize checksSize
  exact Nat.le_of_dvd (by omega) turns

/-- A run that keeps one slot unused never counts to the end of the word. -/
theorem Consistent.running_of_bounded
    (consistent : state.Consistent guard capacity)
    (checksSize : guard ≠ .pointerOnly)
    (bounded : state.UnreadAtMost (capacity.size - 1)) :
    state.Running := by
  intro fault exited
  have turns := consistent.exit_counts checksSize exited
  have small := consistent.count_small bounded
  omega

/-- What a state of a bounded run says about the consumer's reads. -/
structure ReadsInOrder
    (guard : Guard) (self : Nat) (capacity : Capacity)
    (state : Spsc T) : Prop where
  /-- The `k`-th value read is the `k`-th value pushed. -/
  inOrder :
    ∀ (k : Nat) (value : T),
      state.read[k]? = some value → state.pushed[k]? = some value
  writeIndex : state.queue.nextWriteIndex < capacity.size
  readIndex : state.queue.nextReadIndex < capacity.size
  /-- No push writes the slot that the consumer holds a pointer to. -/
  pointerKept :
    ∀ slot thread after,
      state.consumer.pointer = some slot →
      Step guard self thread state after →
      after.pushed ≠ state.pushed →
      after.UnreadAtMost (capacity.size - 1) →
      state.queue.getNextToWriteTo ≠ slot
  running : state.Running

theorem readsInOrder_of_reachable
    (checksSize : guard ≠ .pointerOnly)
    (reached :
      (machine guard self capacity default).Reachable
        (Machine.staying (UnreadAtMost (capacity.size - 1))) state) :
    state.ReadsInOrder guard self capacity := by
  have consistent := consistent_of_reachable reached
  have bounded := bounded_of_reachable reached
  have inOrder := read_prefix_pushed reached
  exact
    { inOrder := fun _ _ read => getElem?_of_prefix inOrder read
      writeIndex := consistent.tracks.writeIndex_lt
      readIndex := consistent.tracks.readIndex_lt
      pointerKept := by
        intro slot thread after held step pushes boundedAfter
        exact consistent.push_avoids_pointer step pushes boundedAfter held
      running := consistent.running_of_bounded checksSize bounded }

/-- The queue under `Logger::flushQueue`: in order and undisturbed while one
slot stays unused; and its `ASSERT` holds even under an overrun as long as
`store_size_` does not count `2 ^ 64` elements. -/
theorem flushQueue_interleavings
    (self : Nat) (capacity : Capacity) (default : T) :
    (∀ state,
      (machine .pointerThenSize self capacity default).Reachable
        (Machine.staying (UnreadAtMost (capacity.size - 1))) state →
      state.ReadsInOrder .pointerThenSize self capacity) ∧
    (∀ state fault,
      (machine .pointerThenSize self capacity default).Reachable
        Machine.anyStep state →
      state.consumer = .exited fault →
      2 ^ 64 ≤ state.counted - state.uncounted) := by
  constructor
  · intro state reached
    exact readsInOrder_of_reachable (by decide) reached
  · intro state fault reached exited
    exact (consistent_of_reachable reached).exit_counts (by decide) exited

/-- The consumer has stored `next_read_index_` past the only element pushed
and is about to test the `ASSERT`. -/
private theorem reachable_before_assert :
    ∃ state : Spsc Nat,
      (machine .pointerThenSize 0 twoSlots 0).Reachable
        Machine.anyStep state ∧
      state.consumer = .released ∧
      state.producer = .ready none ∧
      state.queue.storeSize = 1 := by
  have atStart :
      (machine .pointerThenSize 0 twoSlots 0).Reachable
        Machine.anyStep (start twoSlots 0) :=
    Machine.Reachable.start
  have written := atStart.next_any (Step.writeSlot none 7 nofun rfl)
  have published := written.next_any (Step.storeWriteIndex nofun rfl)
  have counted := published.next_any (Step.incrementSize nofun rfl)
  have fetched := counted.next_any (Step.check _ (Check.fetch nofun))
  have admitted :=
    fetched.next_any (Step.check _ (Check.enter 0 rfl (by decide)))
  have taken := admitted.next_any (Step.readSlot 0 7 rfl rfl)
  have released := taken.next_any (Step.storeReadIndex rfl)
  exact ⟨_, released, rfl, rfl, rfl⟩

/-- `2 ^ 64 - 1` pushes between the consumer's `size()` and its `ASSERT` wrap
`store_size_` to zero. -/
theorem flushQueue_assert_fires_after_wrap :
    ∃ (state : Spsc Nat) (fault : Fault),
      (machine .pointerThenSize 0 twoSlots 0).Reachable
        Machine.anyStep state ∧
      state.consumer = .exited fault := by
  obtain ⟨before, beforeReached, released, ready, one⟩ :=
    reachable_before_assert
  have running : before.Running := by
    intro fault exited
    rw [released] at exited
    cases exited
  obtain ⟨wrapped, wrappedReached, pushes⟩ :=
    reachable_pushes 7 beforeReached running ⟨none, ready⟩ (2 ^ 64 - 1)
  have zero : wrapped.queue.storeSize = 0 := by
    rw [pushes.storeSize, one]
    decide
  have fails :
      wrapped.queue.assertStoreSize 0 =
        .error (.exit "Invalid store size: 0") := by
    rw [assertStoreSize, zero]
    rfl
  have exits :=
    wrappedReached.next_any
      (Step.assertFails _ (pushes.consumer.trans released) fails)
  exact ⟨_, _, exits, rfl⟩

end Spsc

end LFQueue

end LowLatencyBlocks
