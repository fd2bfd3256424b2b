import LowLatencyBlocks.LockFreeQueue.Delivery

/-!
# A consumer that follows only the pointer

`getNextToRead()` reports an element as soon as it is published, and
`updateReadIndex()` asserts that it is counted.  Between these two stores of the
producer lies the one window in which a consumer that does not load `size()` can
end the process.
-/

namespace LowLatencyBlocks

open Library

namespace LFQueue

namespace Spsc

variable {T : Type} {self : Nat} {capacity : Capacity}
  {default : T} {state : Spsc T}

/-- The producer has not counted the element that the consumer has popped: it
stands between its two stores, and the consumer has caught up with it. -/
def Overtaken (state : Spsc T) : Prop :=
  state.producer = .published ∧
    state.queue.nextReadIndex = state.queue.nextWriteIndex

/-- No consumer tests the `ASSERT` while the producer is overtaken. -/
def AssertsSettled (thread : Thread) (before _after : Spsc T) : Prop :=
  thread = .consumer → before.consumer = .released → ¬ before.Overtaken

/-- Keep the bound, and test the `ASSERT` in settled states only. -/
def BoundedAndSettled (capacity : Capacity)
    (thread : Thread) (before after : Spsc T) : Prop :=
  after.UnreadAtMost (capacity.size - 1) ∧
    AssertsSettled thread before after

/-- At the `ASSERT` of a bounded run the counter is zero exactly when the
producer is overtaken. -/
theorem storeSize_eq_zero_iff_overtaken
    (consistent : state.Consistent .pointerOnly capacity)
    (bounded : state.UnreadAtMost (capacity.size - 1))
    (stage : state.consumer = .released) :
    state.queue.storeSize = 0 ↔ state.Overtaken := by
  have small := consistent.count_small bounded
  have counts := consistent.countOrder
  have order := consistent.indexOrder
  have producer := consistent.producer
  have consumer := consistent.consumer
  simp only [ConsumerCounts, stage] at consumer
  obtain ⟨popped, _, _⟩ := consumer
  have zero :
      state.queue.storeSize = 0 ↔ state.counted = state.uncounted := by
    rw [consistent.tracks.storeSize,
      Library.counter_eq_zero_iff_of_lt small]
    omega
  have positive := capacity.positive
  have bounds := consistent.producer_bounds
  rw [UnreadAtMost] at bounded
  have caughtUp :
      state.queue.nextReadIndex = state.queue.nextWriteIndex ↔
        state.released = state.published := by
    rw [consistent.tracks.readIndex, consistent.tracks.writeIndex]
    constructor
    · intro same
      exact eq_of_mod_eq_of_window same order (by omega)
    · intro same
      rw [same]
  rw [zero, Overtaken, caughtUp]
  rw [ProducerCounts] at producer
  cases position : state.producer with
  | ready seen | written =>
      simp only [position] at producer
      constructor
      · intro equal
        omega
      · rintro ⟨impossible, _⟩
        cases impossible
  | published =>
      simp only [position] at producer
      constructor
      · intro equal
        exact ⟨rfl, by omega⟩
      · rintro ⟨_, equal⟩
        omega

/-- In a bounded run the `ASSERT` fires at a step of the consumer exactly when
the producer is overtaken there. -/
theorem exits_iff_overtaken
    (reached :
      (machine .pointerOnly self capacity default).Reachable
        (Machine.staying (UnreadAtMost (capacity.size - 1))) state)
    {after : Spsc T} (stage : state.consumer = .released)
    (step : Step .pointerOnly self .consumer state after) :
    (∃ fault, after.consumer = .exited fault) ↔ state.Overtaken := by
  have bounded := bounded_of_reachable reached
  have consistent := consistent_of_reachable reached
  rw [← storeSize_eq_zero_iff_overtaken consistent bounded stage]
  cases step with
  | assertHolds _ holds =>
      have nonzero := (assertStoreSize_eq_ok_iff _ _).mp holds
      constructor
      · rintro ⟨fault, impossible⟩
        cases impossible
      · intro zero
        exact absurd zero nonzero
  | assertFails fault _ fails =>
      exact iff_of_true ⟨fault, rfl⟩ (storeSize_eq_zero_of_assert fails)
  | check next checked =>
      rw [stage] at checked
      cases checked
  | readSlot slot value elsewhere _ =>
      rw [stage] at elsewhere
      cases elsewhere
  | storeReadIndex elsewhere | decrementSize elsewhere =>
      rw [stage] at elsewhere
      cases elsewhere

theorem staying_bound
    (reached :
      (machine .pointerOnly self capacity default).Reachable
        (BoundedAndSettled capacity) state) :
    (machine .pointerOnly self capacity default).Reachable
      (Machine.staying (UnreadAtMost (capacity.size - 1))) state :=
  reached.weaken fun _ _ _ admitted => admitted.1

/-- A settled bounded run never reaches the failing `ASSERT`. -/
theorem running_of_settled
    (reached :
      (machine .pointerOnly self capacity default).Reachable
        (BoundedAndSettled capacity) state) :
    state.Running := by
  refine reached.strong_invariant Running ?_ ?_
  · intro fault impossible
    cases impossible
  rintro thread before after reachedBefore running step ⟨_, settled⟩
  cases step with
  | assertFails fault stage fails =>
      have consistent := consistent_of_reachable reachedBefore
      have bounded := bounded_of_reachable (staying_bound reachedBefore)
      have overtaken :=
        (storeSize_eq_zero_iff_overtaken consistent bounded stage).mp
          (storeSize_eq_zero_of_assert fails)
      exact absurd overtaken (settled rfl stage)
  | check next checked =>
      intro fault
      exact checked.not_exited fault
  | look _ _ _ | writeSlot _ _ _ _ | storeWriteIndex _ _
  | incrementSize _ _ =>
      exact running
  | readSlot _ _ _ _ | storeReadIndex _ | assertHolds _ _
  | decrementSize _ =>
      intro fault impossible
      cases impossible

/-- Under a consumer that follows only `getNextToRead()`: a run with one slot
unused in which the `ASSERT` is tested in settled states only never ends in it
and never takes the counter below zero; and each test of an overtaken producer
does end in it. -/
theorem pointerOnly_interleavings
    (self : Nat) (capacity : Capacity) (default : T) :
    (∀ state,
      (machine .pointerOnly self capacity default).Reachable
        (BoundedAndSettled capacity) state →
      state.Running ∧
        state.uncounted ≤ state.counted ∧
        state.queue.size.toNat = state.counted - state.uncounted) ∧
    (∀ state after,
      (machine .pointerOnly self capacity default).Reachable
        (Machine.staying (UnreadAtMost (capacity.size - 1))) state →
      state.consumer = .released →
      Step .pointerOnly self .consumer state after →
      ((∃ fault, after.consumer = .exited fault) ↔ state.Overtaken)) := by
  constructor
  · intro state reached
    have consistent := consistent_of_reachable reached
    have small :=
      consistent.count_small (bounded_of_reachable (staying_bound reached))
    refine ⟨running_of_settled reached, consistent.countOrder, ?_⟩
    rw [consistent.tracks.size_toNat, Nat.mod_eq_of_lt small]
  · intro state after reached stage step
    exact exits_iff_overtaken reached stage step

/-- The producer publishes an element, the consumer pops it and tests the
`ASSERT`, and only then would the producer count it. -/
theorem pointerOnly_assert_fires :
    ∃ (state : Spsc Nat) (fault : Fault),
      (machine .pointerOnly 0 twoSlots 0).Reachable
        (Machine.staying (UnreadAtMost (twoSlots.size - 1))) state ∧
      state.consumer = .exited fault := by
  have atStart :
      (machine .pointerOnly 0 twoSlots 0).Reachable
        (Machine.staying (UnreadAtMost (twoSlots.size - 1)))
        (start twoSlots 0) :=
    Machine.Reachable.start
  have written :=
    atStart.next (Step.writeSlot none 7 nofun rfl) (Nat.le_refl 1)
  have published :=
    written.next (Step.storeWriteIndex nofun rfl) (Nat.le_refl 1)
  have fetched :=
    published.next (Step.check _ (Check.fetch nofun)) (Nat.le_refl 1)
  have admitted :=
    fetched.next (Step.check _ (Check.follow 0 rfl)) (Nat.le_refl 1)
  have taken :=
    admitted.next (Step.readSlot 0 7 rfl rfl) (Nat.le_refl 1)
  have released :=
    taken.next (Step.storeReadIndex rfl) (Nat.le_succ 1)
  have exits :=
    released.next (Step.assertFails _ rfl rfl) (Nat.le_succ 1)
  exact ⟨_, _, exits, rfl⟩

end Spsc

end LFQueue

end LowLatencyBlocks
