import LowLatencyBlocks.MemoryPool.Handing

/-!
# When the memory pool has a block to hand out

The cursor of the pool only moves forward, one block for each `allocate`, and
leaves the vector at the last one.  So the blocks given back behind it are never
handed out again, and the last block is never handed out at all.
-/

namespace LowLatencyBlocks

open Library

namespace MemPool

namespace Handled

variable {T : Type}

/-- The number of `allocate` calls. -/
def allocations (calls : List (Call T)) : Nat :=
  calls.countP fun call =>
    match call with
    | .allocate _ => true
    | .deallocate _ => false

/-- What holds after `count` calls of `allocate`, with the blocks from the
cursor on never handed out yet. -/
structure Swept
    (capacity : Capacity) (count : Nat) (handled : Handled T) : Prop where
  kept : Kept capacity handled
  cursor : handled.pool.nextFreeIndex = count
  ahead :
    ∀ index,
      count ≤ index → index < capacity.size →
      FlagAt handled.pool.store index true

section OneCall

variable {capacity : Capacity} {count : Nat} {handled : Handled T}

theorem swept_start (capacity : Capacity) (default : T) :
    Swept capacity 0 (start capacity default) where
  kept := kept_start capacity default
  cursor := rfl
  ahead := by
    intro index _ inside
    refine ⟨default, ?_⟩
    rw [start, List.getElem?_replicate, if_pos inside]

theorem Swept.count_lt (swept : Swept capacity count handled) :
    count < capacity.size := by
  rw [← swept.cursor, ← swept.kept.length]
  exact swept.kept.cursor.lt

/-- A block in use lies behind the cursor. -/
theorem Swept.inUse_lt
    (swept : Swept capacity count handled) {index : Nat}
    (member : index ∈ handled.inUse) :
    index < count := by
  have used := (swept.kept.flags index).mpr member
  have inside : index < capacity.size := by
    rw [← swept.kept.length]
    exact used.lt
  rcases Nat.lt_or_ge index count with behind | atLeast
  · exact behind
  · cases used.unique (swept.ahead index atLeast inside)

theorem Swept.card_inUse_le (swept : Swept capacity count handled) :
    handled.inUse.card ≤ count := by
  have subset : handled.inUse ⊆ Finset.range count := by
    intro index member
    exact Finset.mem_range.mpr (swept.inUse_lt member)
  have bound := Finset.card_le_card subset
  rwa [Finset.card_range] at bound

/-- The search of an `allocate` stops one block further on. -/
theorem Swept.found_eq
    (swept : Swept capacity count handled) {found : Nat}
    (later : handled.pool.nextFreeIndex < found)
    (free : FlagAt handled.pool.store found true)
    (passed :
      ∀ index, handled.pool.nextFreeIndex < index → index < found →
        FlagAt handled.pool.store index false) :
    found = count + 1 := by
  have inside : found < capacity.size := by
    rw [← swept.kept.length]
    exact free.lt
  rw [swept.cursor] at later passed
  rcases Nat.eq_or_lt_of_le later with next | beyond
  · exact next.symm
  · have used := passed (count + 1) (Nat.lt_succ_self count) beyond
    have stillFree :=
      swept.ahead (count + 1) (Nat.le_succ count)
        (Nat.lt_trans beyond inside)
    cases used.unique stillFree

theorem Swept.call
    (swept : Swept capacity count handled)
    {call : Call T} {after : Handled T}
    (stepped : step handled call = some after) :
    Swept capacity (count + allocations [call]) after := by
  have keptAfter := swept.kept.call stepped
  obtain
    ⟨value, found, rfl, later, free, passed, rfl⟩ |
      ⟨index, object, rfl, present, rfl⟩ := swept.kept.step_cases stepped
  · have next := swept.found_eq later free passed
    refine ⟨keptAfter, next, ?_⟩
    intro index beyond inside
    have apart : handled.pool.nextFreeIndex ≠ index := by
      rw [swept.cursor]
      exact Nat.ne_of_lt beyond
    exact
      (fill_flagAt_of_ne apart).mpr
        (swept.ahead index (Nat.le_of_succ_le beyond) inside)
  · refine ⟨keptAfter, swept.cursor, ?_⟩
    intro other beyond inside
    by_cases same : index = other
    · rw [← same]
      exact flagAt_set_self (List.getElem?_eq_some_iff.mp present).1
    · exact (flagAt_set_of_ne same).mpr (swept.ahead other beyond inside)

/-- The next `allocate` returns exactly while a block is left behind the one
under the cursor. -/
theorem Swept.allocate_returns_iff
    (swept : Swept capacity count handled) (value : T) :
    (∃ index pool, handled.pool.allocate value = .ok (index, pool)) ↔
      count + 1 < capacity.size := by
  rcases allocate_cases swept.kept.cursor value with
    ⟨found, succeeded, later, free, passed⟩ | ⟨failed, passed⟩
  · have inside : found < capacity.size := by
      rw [← swept.kept.length]
      exact free.lt
    rw [swept.found_eq later free passed] at inside
    exact ⟨fun _ => inside, fun _ => ⟨_, _, succeeded⟩⟩
  · constructor
    · rintro ⟨index, pool, succeeded⟩
      rw [failed] at succeeded
      cases succeeded
    · intro left
      rw [swept.kept.length, swept.cursor] at passed
      have used := passed (count + 1) (Nat.lt_succ_self count) left
      cases used.unique (swept.ahead _ (Nat.le_succ count) left)

theorem Swept.allocate_fails
    (swept : Swept capacity count handled) (value : T)
    (last : capacity.size ≤ count + 1) :
    handled.pool.allocate value = .error (.outOfRange capacity.size) := by
  have notReturned := (swept.allocate_returns_iff value).not.mpr
    (Nat.not_lt.mpr last)
  rcases allocate_cases swept.kept.cursor value with
    ⟨found, succeeded, _⟩ | ⟨failed, _⟩
  · exact absurd ⟨_, _, succeeded⟩ notReturned
  · rw [failed, swept.kept.length]

end OneCall

theorem swept_of_exec
    {capacity : Capacity} {default : T}
    {calls : List (Call T)} {handled : Handled T}
    (executed : exec step calls (start capacity default) = some handled) :
    Swept capacity (allocations calls) handled := by
  refine
    exec_induction
      (fun calls handled => Swept capacity (allocations calls) handled)
      (swept_start capacity default) ?_ executed
  intro calls before call after swept stepped
  have sweptAfter := swept.call stepped
  rwa [allocations, allocations, ← List.countP_append] at sweptAfter

/-- A pool of `N` blocks never hands out more than `N - 1` of them, however
many are given back in between. -/
theorem allocations_lt
    {capacity : Capacity} {default : T}
    {calls : List (Call T)} {handled : Handled T}
    (executed : exec step calls (start capacity default) = some handled) :
    allocations calls < capacity.size :=
  (swept_of_exec executed).count_lt

/-- When a pool with a block that is not in use hands one out. -/
theorem memPool_available_iff
    (capacity : Capacity) (default : T)
    (calls : List (Call T)) (handled : Handled T)
    (executed : exec step calls (start capacity default) = some handled)
    (value : T) :
    (handled.inUse.card < capacity.size →
      ∃ index pool, handled.pool.allocate value = .ok (index, pool)) ↔
      allocations calls + 1 < capacity.size := by
  have swept := swept_of_exec executed
  have fewer : handled.inUse.card < capacity.size :=
    Nat.lt_of_le_of_lt swept.card_inUse_le swept.count_lt
  rw [← swept.allocate_returns_iff value]
  exact ⟨fun available => available fewer, fun returned _ => returned⟩

/-- One of four blocks handed out and given back. -/
def oneGiven : Handled Nat where
  pool :=
    { store := [⟨7, true⟩, ⟨0, true⟩, ⟨0, true⟩, ⟨0, true⟩]
      nextFreeIndex := 1 }
  blocks := (Allocator.empty.taking 0).giving 0

theorem exec_oneGiven :
    exec step [.allocate 7, .deallocate 0] (start fourBlocks 0) =
      some oneGiven := by
  have allocated :
      (start fourBlocks 0).pool.allocate 7 =
        .ok (0,
          { store := [⟨7, false⟩, ⟨0, true⟩, ⟨0, true⟩, ⟨0, true⟩]
            nextFreeIndex := 1 }) := by
    decide +kernel
  have given :
      ({ store := [⟨7, false⟩, ⟨0, true⟩, ⟨0, true⟩, ⟨0, true⟩]
         nextFreeIndex := 1 } : MemPool Nat).deallocate (0 : Nat) =
        .ok oneGiven.pool := by
    decide
  simp only [exec_cons, step, allocated, Option.bind_some, given]
  rfl

theorem memPool_available_sample :
    ∃ index pool, oneGiven.pool.allocate 8 = .ok (index, pool) :=
  (memPool_available_iff fourBlocks 0 [.allocate 7, .deallocate 0] oneGiven
    exec_oneGiven 8).mpr (by decide) (by decide)

/-- Two blocks, one handed out and given back: the pool is empty, and the next
`allocate` reads past the end of the vector. -/
theorem memPool_unavailable_after_free :
    ∃ handled,
      exec step [.allocate 7, .deallocate 0] (start twoSlots 0) =
          some handled ∧
        handled.inUse.card < 2 ∧
        handled.pool.allocate 8 = .error (.outOfRange 2) := by
  have given :
      oneTaken.pool.deallocate (0 : Nat) =
        .ok { store := [⟨7, true⟩, ⟨0, true⟩], nextFreeIndex := 1 } := by
    decide
  have second :
      step oneTaken (.deallocate 0) =
        some
          { pool :=
              { store := [⟨7, true⟩, ⟨0, true⟩], nextFreeIndex := 1 }
            blocks := oneTaken.blocks.giving 0 } := by
    simp only [step, given]
  have executed :=
    @exec_append _ _ step [.allocate 7] [.deallocate 0]
      (start twoSlots 0)
  rw [exec_oneTaken, Option.bind_some, exec_cons, second] at executed
  refine ⟨_, executed, by decide, ?_⟩
  exact (swept_of_exec executed).allocate_fails 8 (by decide)

end Handled

end MemPool

end LowLatencyBlocks
