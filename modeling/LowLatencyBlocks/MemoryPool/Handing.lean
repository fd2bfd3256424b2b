import LowLatencyBlocks.Library.Allocator
import LowLatencyBlocks.MemoryPool.MemPool

/-!
# The memory pool hands out no block twice

Any sequence of `allocate` and `deallocate` calls, up to the first one that
does not return.  Beside the pool runs an abstract allocator that takes the
blocks returned and gets back the blocks deallocated; the pool is shown to
follow it, with the flags of the blocks as its set of handles in use.
-/

namespace LowLatencyBlocks

open Library

namespace MemPool

variable {T : Type}

inductive Call (T : Type) where
  | allocate (value : T)
  | deallocate (index : Nat)
  deriving DecidableEq, Repr

/-- A pool with the blocks handed out and returned so far. -/
structure Handled (T : Type) where
  pool : MemPool T
  blocks : Allocator Nat

namespace Handled

def start (capacity : Capacity) (default : T) : Handled T where
  pool :=
    { store := List.replicate capacity.size ⟨default, true⟩
      nextFreeIndex := 0 }
  blocks := Allocator.empty

/-- The constructor returns the pool of `start`. -/
theorem make_eq_start (capacity : Capacity) (default : T) :
    make capacity.size default = .ok (start capacity default).pool := by
  have first :
      (List.replicate capacity.size
        (⟨default, true⟩ : ObjectBlock T))[0]? = some ⟨default, true⟩ := by
    rw [List.getElem?_replicate, if_pos capacity.positive]
  simp only [make, vectorAt_eq_ok_iff.mpr first]
  rfl

/-- One call; `none` when it does not return. -/
def step (handled : Handled T) : Call T → Option (Handled T)
  | .allocate value =>
      match handled.pool.allocate value with
      | .ok (index, pool) =>
          some { pool := pool, blocks := handled.blocks.taking index }
      | .error _ => none
  | .deallocate index =>
      match handled.pool.deallocate index with
      | .ok pool =>
          some { pool := pool, blocks := handled.blocks.giving index }
      | .error _ => none

/-- The blocks returned by an `allocate` and not deallocated since. -/
def inUse (handled : Handled T) : Finset Nat :=
  handled.blocks.inUse

/-- What holds between two calls. -/
structure Kept (capacity : Capacity) (handled : Handled T) : Prop where
  length : handled.pool.store.length = capacity.size
  cursor : FlagAt handled.pool.store handled.pool.nextFreeIndex true
  flags :
    ∀ index,
      FlagAt handled.pool.store index false ↔ index ∈ handled.inUse
  follows :
    (Allocator.machine Nat).Reachable Machine.anyStep handled.blocks

section OneCall

variable {capacity : Capacity} {handled : Handled T}

theorem kept_start (capacity : Capacity) (default : T) :
    Kept capacity (start capacity default) where
  length := List.length_replicate
  cursor := by
    refine ⟨default, ?_⟩
    rw [start, List.getElem?_replicate, if_pos capacity.positive]
  flags := by
    intro index
    constructor
    · rintro ⟨object, present⟩
      rw [start, List.getElem?_replicate] at present
      split at present
      · cases present
      · cases present
    · intro member
      exact absurd member (Finset.notMem_empty index)
  follows := Machine.Reachable.start

theorem Kept.cursor_notMem (kept : Kept capacity handled) :
    handled.pool.nextFreeIndex ∉ handled.inUse := by
  intro member
  have same := kept.cursor.unique ((kept.flags _).mpr member)
  cases same

theorem Kept.taken
    (kept : Kept capacity handled) {value : T} {found : Nat}
    (later : handled.pool.nextFreeIndex < found)
    (free : FlagAt handled.pool.store found true) :
    Kept capacity
      { pool := { handled.pool.fill value with nextFreeIndex := found }
        blocks := handled.blocks.taking handled.pool.nextFreeIndex } where
  length := List.length_set.trans kept.length
  cursor := (fill_flagAt_of_ne (Nat.ne_of_lt later)).mpr free
  flags := by
    intro index
    rw [inUse, Allocator.taking, Finset.mem_insert]
    by_cases same : index = handled.pool.nextFreeIndex
    · subst same
      have used := fill_cursor_used kept.cursor.lt value
      exact ⟨fun _ => .inl rfl, fun _ => used⟩
    · rw [fill_flagAt_of_ne (Ne.symm same), kept.flags index]
      exact ⟨.inr, fun either => either.resolve_left same⟩
  follows :=
    kept.follows.next_any (Allocator.Step.take _ _ kept.cursor_notMem)

theorem Kept.given
    (kept : Kept capacity handled) {index : Nat} {object : T}
    (present : handled.pool.store[index]? = some ⟨object, false⟩) :
    Kept capacity
      { pool :=
          { handled.pool with
            store := handled.pool.store.set index ⟨object, true⟩ }
        blocks := handled.blocks.giving index } where
  length := List.length_set.trans kept.length
  cursor := by
    by_cases same : index = handled.pool.nextFreeIndex
    · rw [← same]
      exact flagAt_set_self (List.getElem?_eq_some_iff.mp present).1
    · exact (flagAt_set_of_ne same).mpr kept.cursor
  flags := by
    intro other
    rw [inUse, Allocator.giving, Finset.mem_erase]
    by_cases same : index = other
    · subst same
      have free : FlagAt
          (handled.pool.store.set index ⟨object, true⟩) index true :=
        flagAt_set_self (List.getElem?_eq_some_iff.mp present).1
      constructor
      · intro used
        cases free.unique used
      · intro member
        exact absurd rfl member.1
    · rw [flagAt_set_of_ne same, kept.flags other]
      exact ⟨fun member => ⟨Ne.symm same, member⟩, And.right⟩
  follows :=
    kept.follows.next_any
      (Allocator.Step.give _ _ ((kept.flags index).mp ⟨object, present⟩))

/-- What one call can do. -/
theorem Kept.step_cases
    (kept : Kept capacity handled)
    {call : Call T} {after : Handled T}
    (stepped : step handled call = some after) :
    (∃ value found,
      call = .allocate value ∧
      handled.pool.nextFreeIndex < found ∧
      FlagAt handled.pool.store found true ∧
      (∀ index, handled.pool.nextFreeIndex < index → index < found →
        FlagAt handled.pool.store index false) ∧
      after =
        { pool := { handled.pool.fill value with nextFreeIndex := found }
          blocks :=
            handled.blocks.taking handled.pool.nextFreeIndex }) ∨
    (∃ index object,
      call = .deallocate index ∧
      handled.pool.store[index]? = some ⟨object, false⟩ ∧
      after =
        { pool :=
            { handled.pool with
              store := handled.pool.store.set index ⟨object, true⟩ }
          blocks := handled.blocks.giving index }) := by
  cases call with
  | allocate value =>
      rcases allocate_cases kept.cursor value with
        ⟨found, allocated, later, free, passed⟩ | ⟨failed, _⟩
      · simp only [step, allocated] at stepped
        exact
          .inl
            ⟨value, found, rfl, later, free, passed,
              (Option.some.inj stepped).symm⟩
      · simp only [step, failed] at stepped
        cases stepped
  | deallocate index =>
      by_cases inside : index < handled.pool.store.length
      · rcases flagAt_of_lt inside with free | ⟨object, present⟩
        · simp only [step, deallocate_of_free free] at stepped
          cases stepped
        · simp only [step, deallocate_of_used present] at stepped
          exact
            .inr
              ⟨index, object, rfl, present,
                (Option.some.inj stepped).symm⟩
      · have foreign :
            ¬ ((0 : Int) ≤ (index : Int) ∧
              (index : Int).toNat < handled.pool.store.length) :=
          fun belongs => inside belongs.2
        simp only [step, deallocate_of_foreign foreign] at stepped
        cases stepped

theorem Kept.call
    (kept : Kept capacity handled)
    {call : Call T} {after : Handled T}
    (stepped : step handled call = some after) :
    Kept capacity after := by
  obtain
    ⟨value, found, _, later, free, _, rfl⟩ |
      ⟨index, object, _, present, rfl⟩ := kept.step_cases stepped
  · exact kept.taken later free
  · exact kept.given present

end OneCall

theorem kept_of_exec
    {capacity : Capacity} {default : T}
    {calls : List (Call T)} {handled : Handled T}
    (executed : exec step calls (start capacity default) = some handled) :
    Kept capacity handled :=
  exec_invariant (Kept capacity)
    (fun _ _ _ kept stepped => kept.call stepped)
    (kept_start capacity default) executed

/-- In every state between two calls of a run, and for the next `allocate`. -/
theorem memPool_hands_out_once
    (capacity : Capacity) (default : T)
    (calls : List (Call T)) (handled : Handled T)
    (executed : exec step calls (start capacity default) = some handled) :
    (∀ index,
      FlagAt handled.pool.store index false ↔ index ∈ handled.inUse) ∧
    handled.pool.nextFreeIndex < capacity.size ∧
    FlagAt handled.pool.store handled.pool.nextFreeIndex true ∧
    (∀ (value : T) (index : Nat),
      handled.pool.allocate value ≠
        .error
          (.exit
            ("Expected free ObjectBlock at index:" ++
              toString index))) ∧
    (∀ value index pool,
      handled.pool.allocate value = .ok (index, pool) →
      index < capacity.size ∧
      index ∉ handled.inUse ∧
      pool.store[index]? = some ⟨value, false⟩ ∧
      ∀ other, other ≠ index →
        pool.store[other]? = handled.pool.store[other]?) ∧
    (∀ index earlier between later,
      handled.blocks.history =
        earlier ++ .take index :: (between ++ .take index :: later) →
      .give index ∈ between) := by
  have kept := kept_of_exec executed
  have inside : handled.pool.nextFreeIndex < capacity.size := by
    rw [← kept.length]
    exact kept.cursor.lt
  refine
    ⟨kept.flags, inside, kept.cursor, ?_, ?_, ?_⟩
  · intro value index
    rcases allocate_cases kept.cursor value with
      ⟨_, allocated, _⟩ | ⟨failed, _⟩
    · rw [allocated]
      nofun
    · rw [failed]
      nofun
  · intro value index pool allocated
    rcases allocate_cases kept.cursor value with
      ⟨found, succeeded, _⟩ | ⟨failed, _⟩
    · rw [succeeded] at allocated
      cases allocated
      refine
        ⟨inside, kept.cursor_notMem,
          List.getElem?_set_self kept.cursor.lt, ?_⟩
      intro other apart
      exact List.getElem?_set_ne (Ne.symm apart)
    · rw [failed] at allocated
      cases allocated
  · intro index earlier between later cut
    exact Allocator.given_between_takes kept.follows cut

/-- One of two blocks handed out. -/
def oneTaken : Handled Nat where
  pool := { store := [⟨7, false⟩, ⟨0, true⟩], nextFreeIndex := 1 }
  blocks := Allocator.empty.taking 0

theorem exec_oneTaken :
    exec step [.allocate 7] (start twoSlots 0) = some oneTaken := by
  have allocated :
      (start twoSlots 0).pool.allocate 7 = .ok (0, oneTaken.pool) := by
    decide +kernel
  simp only [exec_cons, step, allocated]
  rfl

theorem memPool_hands_out_once_sample :
    oneTaken.pool.nextFreeIndex < 2 ∧
      ∀ value index,
        oneTaken.pool.allocate value ≠
          .error
            (.exit
              ("Expected free ObjectBlock at index:" ++
                toString (index : Nat))) :=
  have holds :=
    memPool_hands_out_once twoSlots 0 [.allocate 7] oneTaken exec_oneTaken
  ⟨holds.2.1, holds.2.2.2.1⟩

/-- The capacity of the longer sample runs. -/
def fourBlocks : Capacity :=
  ⟨4, by decide, by decide⟩

end Handled

end MemPool

end LowLatencyBlocks
