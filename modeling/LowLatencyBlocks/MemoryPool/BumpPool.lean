import Mathlib.Data.List.GetD
import LowLatencyBlocks.Library.BumpAllocator
import LowLatencyBlocks.MemoryPool.Availability

/-!
# The memory pool is a bump allocator

The search for a free block never goes back, so that the pool hands out its
blocks in their order, each once, and stops before the last one.  Between two
calls its whole state, objects, flags and cursor, is a function of the values
allocated and the blocks in use, and it refuses the same calls as the bump
allocator of one handle less.
-/

namespace LowLatencyBlocks

open Library

namespace MemPool

namespace Handled

variable {T : Type}

/-- The calls of the pool on the bump allocator. -/
def bumpStep (limit : Nat) (bump : Bump T) : Call T → Option (Bump T)
  | .allocate value => bump.take limit value
  | .deallocate index => bump.give index

/-- The block that a handle stands for: a value stays in its block when this is
given back. -/
def blockOf (default : T) (bump : Bump T) (index : Nat) : ObjectBlock T where
  object := bump.values.getD index default
  isFree := decide (index ∉ bump.handles.inUse)

/-- The pool between two calls. -/
def poolOf (capacity : Capacity) (default : T) (bump : Bump T) :
    Handled T where
  pool :=
    { store := (List.range capacity.size).map (blockOf default bump)
      nextFreeIndex := bump.values.length }
  blocks := bump.handles

section Image

variable {capacity : Capacity} {default : T} {bump : Bump T} {index : Nat}

theorem poolOf_empty (capacity : Capacity) (default : T) :
    poolOf capacity default Bump.empty = start capacity default := by
  have same :
      (List.range capacity.size).map (blockOf default Bump.empty) =
        List.replicate capacity.size ⟨default, true⟩ := by
    apply List.eq_replicate_iff.mpr
    refine ⟨?_, ?_⟩
    · rw [List.length_map, List.length_range]
    · intro block member
      obtain ⟨index, _, rfl⟩ := List.mem_map.mp member
      simp [blockOf, Bump.empty, Allocator.empty]
  rw [poolOf, same]
  rfl

theorem length_poolOf :
    (poolOf capacity default bump).pool.store.length = capacity.size := by
  rw [poolOf, List.length_map, List.length_range]

theorem getElem?_poolOf (inside : index < capacity.size) :
    (poolOf capacity default bump).pool.store[index]? =
      some (blockOf default bump index) := by
  rw [poolOf, List.getElem?_map, List.getElem?_range inside]
  rfl

theorem free_poolOf
    (inside : index < capacity.size)
    (unused : index ∉ bump.handles.inUse) :
    FlagAt (poolOf capacity default bump).pool.store index true := by
  refine ⟨bump.values.getD index default, ?_⟩
  rw [getElem?_poolOf inside, blockOf, decide_eq_true unused]

theorem used_poolOf
    (inside : index < capacity.size) (used : index ∈ bump.handles.inUse) :
    (poolOf capacity default bump).pool.store[index]? =
      some ⟨bump.values.getD index default, false⟩ := by
  rw [getElem?_poolOf inside, blockOf, decide_eq_false (not_not.mpr used)]

/-- A write to one block is the image of a change to its handle alone. -/
theorem store_set_poolOf
    {after : Bump T} (inside : index < capacity.size)
    (same :
      ∀ other, other ≠ index →
        blockOf default after other = blockOf default bump other) :
    (poolOf capacity default bump).pool.store.set index
        (blockOf default after index) =
      (poolOf capacity default after).pool.store := by
  apply List.ext_getElem?
  intro other
  by_cases outside : capacity.size ≤ other
  · rw [List.getElem?_eq_none, List.getElem?_eq_none]
    · rw [length_poolOf]
      exact outside
    · rw [List.length_set, length_poolOf]
      exact outside
  · have insideOther := Nat.lt_of_not_le outside
    rw [getElem?_poolOf insideOther]
    by_cases here : index = other
    · rw [← here, List.getElem?_set_self]
      rw [length_poolOf]
      exact inside
    · rw [List.getElem?_set_ne here, getElem?_poolOf insideOther,
        same other (Ne.symm here)]

/-- The bump allocator behind a take. -/
def afterTake (bump : Bump T) (value : T) : Bump T where
  values := bump.values ++ [value]
  handles := bump.handles.taking bump.values.length

theorem blockOf_afterTake_self (value : T) :
    blockOf default (afterTake bump value) bump.values.length =
      ⟨value, false⟩ := by
  rw [blockOf, afterTake, List.getD_append_right _ _ _ _ (Nat.le_refl _),
    Nat.sub_self, Allocator.taking]
  simp

theorem blockOf_afterTake_of_ne
    (value : T) (apart : index ≠ bump.values.length) :
    blockOf default (afterTake bump value) index =
      blockOf default bump index := by
  have sameObject :
      (bump.values ++ [value]).getD index default =
        bump.values.getD index default := by
    rcases Nat.lt_or_gt_of_ne apart with before | behind
    · exact List.getD_append _ _ _ _ before
    · rw [List.getD_eq_default, List.getD_eq_default]
      · exact Nat.le_of_lt behind
      · rw [List.length_append, List.length_singleton]
        exact behind
  rw [blockOf, blockOf, afterTake, sameObject, Allocator.taking]
  simp [apart]

/-- The bump allocator behind a give. -/
def afterGive (bump : Bump T) (handle : Nat) : Bump T where
  values := bump.values
  handles := bump.handles.giving handle

theorem blockOf_afterGive_self :
    blockOf default (afterGive bump index) index =
      ⟨bump.values.getD index default, true⟩ := by
  rw [blockOf, afterGive, Allocator.giving]
  simp

theorem blockOf_afterGive_of_ne
    {other : Nat} (apart : other ≠ index) :
    blockOf default (afterGive bump index) other =
      blockOf default bump other := by
  rw [blockOf, blockOf, afterGive, Allocator.giving]
  simp [apart]

end Image

section OneCall

variable {capacity : Capacity} {default : T} {bump : Bump T}

/-- Behind the blocks handed out every block is free. -/
theorem free_behind
    {limit index : Nat} (orderly : bump.Orderly limit)
    (behind : bump.values.length ≤ index) (inside : index < capacity.size) :
    FlagAt (poolOf capacity default bump).pool.store index true := by
  apply free_poolOf inside
  intro member
  have := orderly.inUse index member
  omega

/-- The block under the cursor is written, and the cursor moves on by one. -/
theorem poolOf_afterTake
    (value : T) (inside : bump.values.length < capacity.size) :
    poolOf capacity default (afterTake bump value) =
      Handled.mk
        (MemPool.mk
          ((poolOf capacity default bump).pool.store.set bump.values.length
            ⟨value, false⟩)
          (bump.values.length + 1))
        (bump.handles.taking bump.values.length) := by
  have filled :
      (poolOf capacity default bump).pool.store.set bump.values.length
          ⟨value, false⟩ =
        (poolOf capacity default (afterTake bump value)).pool.store := by
    rw [← @blockOf_afterTake_self _ default bump value]
    apply store_set_poolOf inside
    intro other apart
    exact blockOf_afterTake_of_ne value apart
  have cursor :
      bump.values.length + 1 =
        (poolOf capacity default
          (afterTake bump value)).pool.nextFreeIndex := by
    rw [poolOf, afterTake, List.length_append]
    rfl
  rw [filled, cursor]
  rfl

/-- While a block is left behind the one under the cursor, the pool takes the
block under the cursor; otherwise it leaves its vector. -/
theorem step_allocate_poolOf
    (orderly : bump.Orderly (capacity.size - 1)) (value : T) :
    step (poolOf capacity default bump) (.allocate value) =
      (bump.take (capacity.size - 1) value).map
        (poolOf capacity default) := by
  have positive := capacity.positive
  have within := orderly.within
  have underCursor :=
    @free_behind _ capacity default bump _ _ orderly (Nat.le_refl _)
      (by omega)
  have behind (inside : bump.values.length + 1 < capacity.size) :=
    @free_behind _ capacity default bump _ _ orderly (Nat.le_succ _) inside
  rw [Bump.take]
  rcases allocate_cases underCursor value with
    ⟨found, allocated, later, freeFound, passed⟩ | ⟨failed, passed⟩
  · have inside : found < capacity.size := by
      rw [← @length_poolOf _ capacity default bump]
      exact freeFound.lt
    have next : found = bump.values.length + 1 := by
      rcases Nat.eq_or_lt_of_le later with same | beyond
      · exact same.symm
      · have used :=
          passed (bump.values.length + 1) (Nat.lt_succ_self _) beyond
        cases used.unique (behind (Nat.lt_trans beyond inside))
    have room : bump.values.length < capacity.size - 1 := by omega
    rw [if_pos room, step, allocated, next]
    exact
      congrArg some
        (@poolOf_afterTake _ capacity default bump value (by omega)).symm
  · have full : ¬ bump.values.length < capacity.size - 1 := by
      intro room
      have used :=
        passed (bump.values.length + 1) (Nat.lt_succ_self _)
          (by rw [length_poolOf]; omega)
      cases used.unique (behind (by omega))
    rw [if_neg full, step, failed]
    rfl

/-- A block is given back exactly when it is in use. -/
theorem step_deallocate_poolOf
    (orderly : bump.Orderly (capacity.size - 1)) (index : Nat) :
    step (poolOf capacity default bump) (.deallocate index) =
      (bump.give index).map (poolOf capacity default) := by
  rw [Bump.give]
  by_cases used : index ∈ bump.handles.inUse
  · have inside : index < capacity.size := by
      have := orderly.inUse index used
      have := orderly.within
      omega
    have present := @used_poolOf _ capacity default bump index inside used
    have emptied :
        (poolOf capacity default bump).pool.store.set index
            ⟨bump.values.getD index default, true⟩ =
          (poolOf capacity default (afterGive bump index)).pool.store := by
      rw [← @blockOf_afterGive_self _ default bump index]
      apply store_set_poolOf inside
      intro other apart
      exact blockOf_afterGive_of_ne apart
    rw [if_pos used, step, deallocate_of_used present]
    simp only [emptied]
    rfl
  · rw [if_neg used]
    by_cases inside : index < capacity.size
    · rw [step, deallocate_of_free (free_poolOf inside used)]
      rfl
    · have foreign :
          ¬ ((0 : Int) ≤ (index : Int) ∧
            (index : Int).toNat <
              (poolOf capacity default bump).pool.store.length) := by
        rw [length_poolOf]
        exact fun belongs => inside belongs.2
      rw [step, deallocate_of_foreign foreign]
      rfl

theorem orderly_bumpStep
    {limit : Nat} {before after : Bump T} {call : Call T}
    (orderly : before.Orderly limit)
    (stepped : bumpStep limit before call = some after) :
    after.Orderly limit := by
  cases call with
  | allocate value =>
      exact orderly.take stepped
  | deallocate index =>
      exact orderly.give stepped

end OneCall

/-- For every list of calls, the pool returns from the same calls as the bump
allocator of one handle less, and is then its image; and its blocks were handed
out in their order, one for each `allocate`. -/
theorem memPool_bumps
    (capacity : Capacity) (default : T) (calls : List (Call T)) :
    exec step calls (start capacity default) =
        (exec (bumpStep (capacity.size - 1)) calls Bump.empty).map
          (poolOf capacity default) ∧
      ∀ handled,
        exec step calls (start capacity default) = some handled →
        handled.blocks.history.filterMap Bump.taken =
          List.range (allocations calls) := by
  have image :
      exec step calls (start capacity default) =
        (exec (bumpStep (capacity.size - 1)) calls Bump.empty).map
          (poolOf capacity default) := by
    rw [← poolOf_empty]
    apply
      exec_image (poolOf capacity default)
        (fun bump => bump.Orderly (capacity.size - 1)) _ _ calls
        Bump.orderly_empty
    · intro bump call orderly
      cases call with
      | allocate value =>
          exact step_allocate_poolOf orderly value
      | deallocate index =>
          exact step_deallocate_poolOf orderly index
    · intro before call after orderly stepped
      exact orderly_bumpStep orderly stepped
  refine ⟨image, ?_⟩
  intro handled ran
  have swept := swept_of_exec ran
  rw [image] at ran
  obtain ⟨bump, ranBump, rfl⟩ := Option.map_eq_some_iff.mp ran
  have orderly : bump.Orderly (capacity.size - 1) := by
    apply
      exec_invariant (fun bump => bump.Orderly (capacity.size - 1)) _
        Bump.orderly_empty ranBump
    intro before call after orderly stepped
    exact orderly_bumpStep orderly stepped
  rw [← swept.cursor]
  exact orderly.taken

end Handled

end MemPool

end LowLatencyBlocks
