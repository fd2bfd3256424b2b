import LowLatencyBlocks.Library.Allocator

/-!
# Handing out one handle after another

The simplest allocator: the handles are numbers, a take hands out the next one
that was never taken, and a handle given back is not taken again.  So the number
of values taken says which handle comes next, and a limit on it is a limit on
all takes together.
-/

namespace Library

universe u

structure Bump (α : Type u) where
  /-- The values taken, the one of handle `k` at position `k`. -/
  values : List α
  handles : Allocator Nat

namespace Bump

variable {α : Type u}

def empty : Bump α :=
  ⟨[], Allocator.empty⟩

/-- `none` when the limit is reached. -/
def take (limit : Nat) (bump : Bump α) (value : α) : Option (Bump α) :=
  if bump.values.length < limit then
    some
      { values := bump.values ++ [value]
        handles := bump.handles.taking bump.values.length }
  else
    none

/-- `none` when the handle is not in use. -/
def give (bump : Bump α) (handle : Nat) : Option (Bump α) :=
  if handle ∈ bump.handles.inUse then
    some { bump with handles := bump.handles.giving handle }
  else
    none

/-- The handle of a take. -/
def taken : Allocator.Event Nat → Option Nat
  | .take handle => some handle
  | .give _ => none

structure Orderly (limit : Nat) (bump : Bump α) : Prop where
  within : bump.values.length ≤ limit
  inUse : ∀ handle ∈ bump.handles.inUse, handle < bump.values.length
  /-- The handles were taken in their order. -/
  taken :
    bump.handles.history.filterMap taken = List.range bump.values.length

section Operations

variable {limit : Nat} {before after : Bump α}

theorem orderly_empty : (empty : Bump α).Orderly limit where
  within := Nat.zero_le _
  inUse := nofun
  taken := rfl

theorem Orderly.take
    (orderly : before.Orderly limit) {value : α}
    (stepped : before.take limit value = some after) :
    after.Orderly limit := by
  rw [Bump.take] at stepped
  by_cases room : before.values.length < limit
  · rw [if_pos room] at stepped
    cases stepped
    refine ⟨?_, ?_, ?_⟩
    · rw [List.length_append, List.length_singleton]
      exact room
    · intro handle member
      rw [List.length_append, List.length_singleton]
      rcases Finset.mem_insert.mp member with rfl | earlier
      · exact Nat.lt_succ_self _
      · exact Nat.lt_succ_of_lt (orderly.inUse handle earlier)
    · rw [Allocator.taking, List.filterMap_append, orderly.taken,
        List.length_append, List.length_singleton, List.range_succ]
      rfl
  · rw [if_neg room] at stepped
    cases stepped

theorem Orderly.give
    (orderly : before.Orderly limit) {handle : Nat}
    (stepped : before.give handle = some after) :
    after.Orderly limit := by
  rw [Bump.give] at stepped
  by_cases used : handle ∈ before.handles.inUse
  · rw [if_pos used] at stepped
    cases stepped
    refine ⟨orderly.within, ?_, ?_⟩
    · intro other member
      exact orderly.inUse other (Finset.mem_of_mem_erase member)
    · rw [Allocator.giving, List.filterMap_append, orderly.taken]
      exact List.append_nil _
  · rw [if_neg used] at stepped
    cases stepped

end Operations

end Bump

end Library
