import LowLatencyBlocks.LockFreeQueue.Delivery

/-!
# How far `size()` is off

The producer counts an element after it published it, the consumer uncounts it
after it released it.  Seen from outside, `store_size_` is off by at most one in
either direction, low while the producer is between its two stores and high
while the consumer is between its two.

The bounds are about the number of increments minus decrements, of which
`store_size_` is the residue modulo `2 ^ 64`; without a bound on the producer
they are bounds on `size()` itself only below `2 ^ 64`.
-/

namespace LowLatencyBlocks

open Library

namespace LFQueue

/-- The producer has published an element that it has not counted. -/
def Producer.midPush : Producer → Prop
  | .published => True
  | _ => False

/-- The consumer has released an element that it has not uncounted. -/
def Consumer.midPop : Consumer → Prop
  | .released => True
  | .checked => True
  | .exited _ => True
  | _ => False

namespace Spsc

variable {T : Type} {guard : Guard} {self : Nat} {capacity : Capacity}
  {default : T} {state : Spsc T}

/-- Stores to `next_write_index_` minus stores to `next_read_index_`. -/
def indexDistance (state : Spsc T) : Int :=
  (state.published : Int) - state.released

/-- A count lies on the safe side of the index distance for either party. -/
structure SafeSides (state : Spsc T) (count : Int) : Prop where
  low : state.indexDistance - 1 ≤ count
  high : count ≤ state.indexDistance + 1
  forProducer :
    ¬ state.producer.midPush → state.indexDistance ≤ count
  forConsumer :
    ¬ state.consumer.midPop → count ≤ state.indexDistance
  exact :
    ¬ state.producer.midPush → ¬ state.consumer.midPop →
      count = state.indexDistance

theorem Consistent.counted_of_not_midPush
    (consistent : state.Consistent guard capacity)
    (between : ¬ state.producer.midPush) :
    state.counted = state.published := by
  have producer := consistent.producer
  rw [ProducerCounts] at producer
  cases stage : state.producer with
  | ready seen | written =>
      simp only [stage] at producer
      omega
  | published =>
      simp [stage, Producer.midPush] at between

theorem Consistent.uncounted_of_not_midPop
    (consistent : state.Consistent guard capacity)
    (between : ¬ state.consumer.midPop) :
    state.uncounted = state.released := by
  have consumer := consistent.consumer
  rw [ConsumerCounts] at consumer
  cases stage : state.consumer with
  | idle | fetched next | sized size | admitted slot | taken =>
      simp only [stage] at consumer
      omega
  | released | checked | exited fault =>
      simp [stage, Consumer.midPop] at between

/-- The exact count of increments minus decrements is on the safe side. -/
theorem Consistent.safeSides
    (consistent : state.Consistent guard capacity) :
    state.SafeSides ((state.counted - state.uncounted : Nat) : Int) := by
  have producer := consistent.producer_bounds
  have consumer := consistent.consumer_bounds
  have counts := consistent.countOrder
  have order := consistent.indexOrder
  have settledPush := consistent.counted_of_not_midPush
  have settledPop := consistent.uncounted_of_not_midPop
  constructor
  · rw [indexDistance]
    omega
  · rw [indexDistance]
    omega
  · intro between
    have := settledPush between
    rw [indexDistance]
    omega
  · intro between
    have := settledPop between
    rw [indexDistance]
    omega
  · intro betweenPushes betweenPops
    have := settledPush betweenPushes
    have := settledPop betweenPops
    rw [indexDistance]
    omega

/-! ## The producer that looks before it pushes -/

/-- A push starts only after a `size()` below `capacity - 1` was loaded since
the push before it. -/
def LooksFirst (capacity : Capacity) (_thread : Thread)
    (before after : Spsc T) : Prop :=
  after.pushed ≠ before.pushed →
    ∃ seen, before.producer = .ready (some seen) ∧
      seen.toNat < capacity.size - 1

/-- What the last look still says: releases only make room. -/
def SeenIsRoom (state : Spsc T) : Prop :=
  ∀ seen, state.producer = .ready (some seen) →
    state.pushed.length ≤ state.released + seen.toNat

/-- A look counts at least the unread elements. -/
theorem Consistent.look_counts_unread
    (consistent : state.Consistent guard capacity)
    (bounded : state.UnreadAtMost (capacity.size - 1))
    {seen : Option SizeT} (ready : state.producer = .ready seen) :
    state.pushed.length ≤ state.released + state.queue.size.toNat := by
  have producer := consistent.producer
  simp only [ProducerCounts, ready] at producer
  have consumer := consistent.consumer_bounds
  have small := consistent.count_small bounded
  rw [consistent.tracks.size_toNat, Nat.mod_eq_of_lt small]
  omega

theorem looking_step
    {thread : Thread} {before after : Spsc T}
    (consistent : before.Consistent guard capacity)
    (bounded : before.UnreadAtMost (capacity.size - 1))
    (room : before.SeenIsRoom)
    (step : Step guard self thread before after)
    (looks : LooksFirst capacity thread before after) :
    after.UnreadAtMost (capacity.size - 1) ∧ after.SeenIsRoom := by
  cases step with
  | look seen running ready =>
      refine ⟨bounded, ?_⟩
      intro loaded stage
      cases stage
      exact consistent.look_counts_unread bounded ready
  | writeSlot seen value running ready =>
      obtain ⟨loaded, stage, below⟩ := looks (by simp)
      have unread := room loaded stage
      constructor
      · simp only [UnreadAtMost, List.length_append,
          List.length_singleton]
        omega
      · intro seen impossible
        cases impossible
  | storeWriteIndex running stage | incrementSize running stage =>
      refine ⟨bounded, ?_⟩
      intro seen impossible
      cases impossible
  | storeReadIndex stage =>
      constructor
      · exact Nat.le_trans bounded (by simp only; omega)
      · intro seen ready
        have unread := room seen ready
        simp only
        omega
  | check _ _ | readSlot _ _ _ _ | assertHolds _ _ | assertFails _ _ _
  | decrementSize _ =>
      exact ⟨bounded, room⟩

theorem unread_of_looking
    (reached :
      (machine guard self capacity default).Reachable
        (LooksFirst capacity) state) :
    state.UnreadAtMost (capacity.size - 1) := by
  have kept :
      state.UnreadAtMost (capacity.size - 1) ∧ state.SeenIsRoom := by
    apply reached.strong_invariant
      (fun state =>
        state.UnreadAtMost (capacity.size - 1) ∧ state.SeenIsRoom)
      ⟨Nat.zero_le _, nofun⟩
    rintro thread before after reachedBefore ⟨bounded, room⟩ step looks
    have consistent := consistent_of_reachable reachedBefore
    exact looking_step consistent bounded room step looks
  exact kept.1

/-- `size()` errs on the safe side: with no bound on the producer the count of
which it is the residue does, and so does `size()` while that count is below
`2 ^ 64`; and a producer that looks first never overruns the queue. -/
theorem size_on_safe_side
    (guard : Guard) (self : Nat) (capacity : Capacity) (default : T) :
    (∀ state,
      (machine guard self capacity default).Reachable
        Machine.anyStep state →
      state.queue.size.toNat =
          (state.counted - state.uncounted) % 2 ^ 64 ∧
        state.SafeSides ((state.counted - state.uncounted : Nat) : Int) ∧
        (state.counted - state.uncounted < 2 ^ 64 →
          state.SafeSides (state.queue.size.toNat : Int))) ∧
    (∀ state,
      (machine guard self capacity default).Reachable
        (LooksFirst capacity) state →
      state.UnreadAtMost (capacity.size - 1) ∧
        state.SafeSides (state.queue.size.toNat : Int)) := by
  have sizeBelow :
      ∀ {state : Spsc T},
        state.Consistent guard capacity →
        state.counted - state.uncounted < 2 ^ 64 →
        state.SafeSides (state.queue.size.toNat : Int) := by
    intro state consistent small
    rw [consistent.tracks.size_toNat, Nat.mod_eq_of_lt small]
    exact consistent.safeSides
  constructor
  · intro state reached
    have consistent := consistent_of_reachable reached
    exact
      ⟨consistent.tracks.size_toNat, consistent.safeSides,
        sizeBelow consistent⟩
  · intro state reached
    have consistent := consistent_of_reachable reached
    have bounded := unread_of_looking reached
    exact ⟨bounded, sizeBelow consistent (consistent.count_small bounded)⟩

/-- After `2 ^ 64` pushes nothing is counted. -/
theorem size_wraps_without_bound :
    ∃ state : Spsc Nat,
      (machine .pointerThenSize 0 twoSlots 0).Reachable
        Machine.anyStep state ∧
      ¬ state.SafeSides (state.queue.size.toNat : Int) := by
  have atStart :
      (machine .pointerThenSize 0 twoSlots 0).Reachable
        Machine.anyStep (start twoSlots 0) :=
    Machine.Reachable.start
  obtain ⟨wrapped, wrappedReached, pushes⟩ :=
    reachable_pushes 7 atStart nofun ⟨none, rfl⟩ (2 ^ 64)
  refine ⟨wrapped, wrappedReached, ?_⟩
  intro safe
  have low := safe.low
  have zero : wrapped.queue.size = 0 := pushes.storeSize
  have published : wrapped.published = 2 ^ 64 :=
    pushes.published.trans (Nat.zero_add _)
  have released : wrapped.released = 0 := pushes.released
  rw [indexDistance, zero, published, released] at low
  revert low
  decide

end Spsc

end LFQueue

end LowLatencyBlocks
