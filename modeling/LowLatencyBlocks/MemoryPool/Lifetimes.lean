import Mathlib.Data.List.Count
import Mathlib.Data.List.Range
import LowLatencyBlocks.MemoryPool.Handing

/-!
# The lifetimes of the objects in a memory pool

The vector constructs one object in every block and destroys one at its end.  The
placement `new` of `allocate` constructs another one over the object that is
there, and nothing but the vector calls a destructor.  So a block holds one
object more for each time it has been handed out.
-/

namespace LowLatencyBlocks

open Library

namespace MemPool

/-- A constructor or destructor call on the object of a block. -/
inductive Lifetime where
  | constructed (block : Nat)
  | destroyed (block : Nat)
  deriving DecidableEq, Repr

/-- The objects in the block that are constructed and not destroyed. -/
def live (lifetimes : List Lifetime) (block : Nat) : Int :=
  lifetimes.count (.constructed block) - lifetimes.count (.destroyed block)

/-- `store_(num_elems, {T(), true})` copies one object into each block. -/
def vectorFill (numElems : Nat) : List Lifetime :=
  (List.range numElems).map .constructed

/-- The destructor of `store_`. -/
def vectorDestruction (numElems : Nat) : List Lifetime :=
  (List.range numElems).map .destroyed

variable {T : Type}

/-- The constructor and destructor calls of a call: the placement `new` comes
before the search, which may not return. -/
def made (pool : MemPool T) : Call T → List Lifetime
  | .allocate _ =>
      match vectorAt pool.store pool.nextFreeIndex with
      | .ok block =>
          if block.isFree then [.constructed pool.nextFreeIndex] else []
      | .error _ => []
  | .deallocate _ => []

/-- A pool between two calls, with the constructor and destructor calls so
far. -/
structure Lived (T : Type) where
  handled : Handled T
  lifetimes : List Lifetime

namespace Lived

def start (capacity : Capacity) (default : T) : Lived T where
  handled := Handled.start capacity default
  lifetimes := vectorFill capacity.size

/-- One call; `none` when it does not return. -/
def step (lived : Lived T) (call : Call T) : Option (Lived T) :=
  (lived.handled.step call).map fun after =>
    { handled := after
      lifetimes := lived.lifetimes ++ made lived.handled.pool call }

/-- The calls up to the moment when a call returns, or fails to. -/
def during (lived : Lived T) (call : Call T) : List Lifetime :=
  lived.lifetimes ++ made lived.handled.pool call

/-- How often `allocate` has returned the block. -/
def timesHandedOut (lived : Lived T) (block : Nat) : Nat :=
  lived.handled.blocks.history.count (.take block)

/-- At no time does a block hold more than one object, and none is left behind
the destruction of the pool. -/
structure Balances
    (capacity : Capacity) (default : T) (calls : List (Call T)) : Prop where
  filled : ∀ block, live (start capacity default).lifetimes block ≤ 1
  atMostOne :
    EachCall step
      (fun lived call => ∀ block, live (lived.during call) block ≤ 1) calls
      (start capacity default)
  noneLeft :
    ∀ lived, exec step calls (start capacity default) = some lived →
      ∀ block,
        live (lived.lifetimes ++ vectorDestruction capacity.size) block = 0

section Counting

variable {first second : List Lifetime} {block : Nat}

theorem live_append :
    live (first ++ second) block = live first block + live second block := by
  rw [live, live, live, List.count_append, List.count_append]
  omega

/-- One call for every block counts once in each of them. -/
theorem count_eachBlock
    {make : Nat → Lifetime} (injective : Function.Injective make)
    (size block : Nat) :
    ((List.range size).map make).count (make block) =
      if block < size then 1 else 0 := by
  rw [List.count_map_of_injective _ _ injective, List.count_range]

theorem count_otherCalls
    {make : Nat → Lifetime} {other : Lifetime}
    (apart : ∀ block, make block ≠ other) (size : Nat) :
    ((List.range size).map make).count other = 0 := by
  apply List.count_eq_zero_of_not_mem
  intro member
  obtain ⟨block, _, same⟩ := List.mem_map.mp member
  exact apart block same

theorem live_vectorFill (size block : Nat) :
    live (vectorFill size) block = if block < size then 1 else 0 := by
  have injective : Function.Injective Lifetime.constructed :=
    fun _ _ same => Lifetime.constructed.inj same
  have apart : ∀ index, Lifetime.constructed index ≠ .destroyed block := by
    intro index same
    cases same
  rw [live, vectorFill, count_eachBlock injective, count_otherCalls apart]
  split <;> rfl

theorem live_vectorDestruction (size block : Nat) :
    live (vectorDestruction size) block =
      -(if block < size then 1 else 0) := by
  have injective : Function.Injective Lifetime.destroyed :=
    fun _ _ same => Lifetime.destroyed.inj same
  have apart : ∀ index, Lifetime.destroyed index ≠ .constructed block := by
    intro index same
    cases same
  rw [live, vectorDestruction, count_eachBlock injective,
    count_otherCalls apart]
  split <;> rfl

/-- Whether the call constructs an object in the block. -/
def constructsIn (pool : MemPool T) (block : Nat) : Call T → Nat
  | .allocate _ => if block = pool.nextFreeIndex then 1 else 0
  | .deallocate _ => 0

theorem live_constructed (index block : Nat) :
    live [.constructed index] block = if block = index then 1 else 0 := by
  by_cases same : block = index
  · simp [live, same]
  · simp [live, same, Ne.symm same]

/-- With a free block under the cursor, every `allocate` gets to its placement
`new`. -/
theorem live_made
    {pool : MemPool T} (free : FlagAt pool.store pool.nextFreeIndex true)
    (call : Call T) (block : Nat) :
    live (made pool call) block = constructsIn pool block call := by
  cases call with
  | deallocate index =>
      rfl
  | allocate value =>
      obtain ⟨object, present⟩ := free
      simp only [made, vectorAt_eq_ok_iff.mpr present, if_true,
        live_constructed, constructsIn]
      split <;> rfl

end Counting

/-- What holds between two calls. -/
structure Counted (capacity : Capacity) (lived : Lived T) : Prop where
  kept : Handled.Kept capacity lived.handled
  lives :
    ∀ block,
      live lived.lifetimes block =
        (if block < capacity.size then 1 else 0) +
          lived.timesHandedOut block

section Runs

variable {capacity : Capacity} {default : T} {lived after : Lived T}

theorem counted_start (capacity : Capacity) (default : T) :
    Counted capacity (start capacity default) where
  kept := Handled.kept_start capacity default
  lives := by
    intro block
    change live (vectorFill capacity.size) block = _ + ((0 : Nat) : Int)
    rw [live_vectorFill]
    omega

/-- A call that returns hands out the block that it constructs in. -/
theorem timesHandedOut_step
    (kept : Handled.Kept capacity lived.handled)
    {call : Call T} (stepped : step lived call = some after) (block : Nat) :
    after.timesHandedOut block =
      lived.timesHandedOut block +
        constructsIn lived.handled.pool block call := by
  obtain ⟨handled, returned, rfl⟩ := Option.map_eq_some_iff.mp stepped
  obtain
    ⟨value, found, rfl, _, _, _, rfl⟩ | ⟨index, object, rfl, _, rfl⟩ :=
      kept.step_cases returned
  · rw [timesHandedOut, Allocator.taking, List.count_append, constructsIn,
      timesHandedOut]
    by_cases same : block = lived.handled.pool.nextFreeIndex
    · simp only [same, if_true, List.count_singleton_self]
    · rw [if_neg same]
      simp [Ne.symm same]
  · simp only [timesHandedOut, Allocator.giving, List.count_append,
      constructsIn, List.count_singleton]
    rfl

theorem Counted.during
    (counted : Counted capacity lived) (call : Call T) (block : Nat) :
    live (lived.during call) block =
      (if block < capacity.size then 1 else 0) +
        lived.timesHandedOut block +
        constructsIn lived.handled.pool block call := by
  rw [Lived.during, live_append, counted.lives,
    live_made counted.kept.cursor]

theorem Counted.next
    (counted : Counted capacity lived) {call : Call T}
    (stepped : step lived call = some after) :
    Counted capacity after := by
  have handedOut := timesHandedOut_step counted.kept stepped
  have made := counted.during call
  obtain ⟨handled, returned, rfl⟩ := Option.map_eq_some_iff.mp stepped
  refine ⟨counted.kept.call returned, ?_⟩
  intro block
  rw [handedOut block]
  change live (lived.during call) block = _
  rw [made block]
  omega

theorem counted_of_exec
    {calls : List (Call T)}
    (ran : exec step calls (start capacity default) = some lived) :
    Counted capacity lived := by
  apply exec_invariant (Counted capacity) _ (counted_start _ _) ran
  intro before call after counted stepped
  exact counted.next stepped

end Runs

/-- After every run a block of the pool holds its first object and one more for
each time it was handed out; a further one as soon as the next `allocate`, if it
is one, has constructed it; and all but one of them behind the destruction of
the pool. -/
theorem object_lifetimes
    (capacity : Capacity) (default : T)
    (calls : List (Call T)) (lived : Lived T)
    (ran : exec step calls (start capacity default) = some lived)
    (block : Nat) (inside : block < capacity.size) :
    live lived.lifetimes block = 1 + lived.timesHandedOut block ∧
      (∀ call : Call T,
        live (lived.during call) block =
          1 + lived.timesHandedOut block +
            constructsIn lived.handled.pool block call) ∧
      live (lived.lifetimes ++ vectorDestruction capacity.size) block =
        lived.timesHandedOut block := by
  have counted : Counted capacity lived := counted_of_exec ran
  have lives := counted.lives block
  rw [if_pos inside] at lives
  refine ⟨lives, ?_, ?_⟩
  · intro call
    rw [counted.during, if_pos inside]
  · rw [live_append, lives, live_vectorDestruction, if_pos inside]
    omega

/-- Every run of the pool is one with its lifetimes. -/
theorem exists_exec
    {calls : List (Call T)} {before : Lived T} {handled : Handled T}
    (ran : exec Handled.step calls before.handled = some handled) :
    ∃ lived, exec step calls before = some lived ∧ lived.handled = handled := by
  induction calls generalizing before with
  | nil =>
      exact ⟨before, rfl, Option.some.inj ran⟩
  | cons call calls inductionHypothesis =>
      obtain ⟨next, stepped, ranRest⟩ := Option.bind_eq_some_iff.mp ran
      have livedStep :
          step before call =
            some ⟨next, before.lifetimes ++ made before.handled.pool call⟩ :=
        Option.map_eq_some_iff.mpr ⟨next, stepped, rfl⟩
      obtain ⟨lived, ranLived, same⟩ :=
        @inductionHypothesis
          ⟨next, before.lifetimes ++ made before.handled.pool call⟩ ranRest
      refine ⟨lived, ?_, same⟩
      rw [exec_cons, livedStep]
      exact ranLived

/-- The first of two blocks is handed out. -/
theorem exec_allocated :
    ∃ lived,
      exec step [.allocate 7] (start twoSlots 0) = some lived ∧
        lived.handled = Handled.oneTaken :=
  exists_exec Handled.exec_oneTaken

/-- Two of four blocks handed out, and the first one given back. -/
def oneOfTwoGiven : Handled Nat where
  pool :=
    { store := [⟨7, true⟩, ⟨8, false⟩, ⟨0, true⟩, ⟨0, true⟩]
      nextFreeIndex := 2 }
  blocks := ((Allocator.empty.taking 0).taking 1).giving 0

theorem exec_oneOfTwoGiven :
    exec Handled.step [.allocate 7, .allocate 8, .deallocate 0]
        (Handled.start Handled.fourBlocks 0) =
      some oneOfTwoGiven := by
  have first :
      (Handled.start Handled.fourBlocks 0).pool.allocate 7 =
        .ok (0,
          { store := [⟨7, false⟩, ⟨0, true⟩, ⟨0, true⟩, ⟨0, true⟩]
            nextFreeIndex := 1 }) := by
    decide +kernel
  have second :
      ({ store := [⟨7, false⟩, ⟨0, true⟩, ⟨0, true⟩, ⟨0, true⟩]
         nextFreeIndex := 1 } : MemPool Nat).allocate 8 =
        .ok (1,
          { store := [⟨7, false⟩, ⟨8, false⟩, ⟨0, true⟩, ⟨0, true⟩]
            nextFreeIndex := 2 }) := by
    decide +kernel
  have given :
      ({ store := [⟨7, false⟩, ⟨8, false⟩, ⟨0, true⟩, ⟨0, true⟩]
         nextFreeIndex := 2 } : MemPool Nat).deallocate (0 : Nat) =
        .ok oneOfTwoGiven.pool := by
    decide
  simp only [exec_cons, Handled.step, first, second, Option.bind_some, given]
  rfl

theorem object_lifetimes_sample :
    ∃ lived,
      exec step [.allocate 7, .allocate 8, .deallocate 0]
          (start Handled.fourBlocks 0) = some lived ∧
        live lived.lifetimes 0 = 2 ∧
        live (lived.during (.allocate 9)) 2 = 2 ∧
        live (lived.lifetimes ++ vectorDestruction 4) 0 = 1 := by
  obtain ⟨lived, ran, same⟩ :=
    @exists_exec _ _ (start Handled.fourBlocks 0) _ exec_oneOfTwoGiven
  obtain ⟨now, _, behind⟩ := object_lifetimes _ _ _ lived ran 0 (by decide)
  obtain ⟨_, during, _⟩ := object_lifetimes _ _ _ lived ran 2 (by decide)
  have next := during (.allocate 9)
  rw [timesHandedOut, same] at now behind next
  exact ⟨lived, ran, now, next, behind⟩

/-- The block that was handed out holds two objects, and one of them is left
behind the destruction of the pool. -/
theorem object_left_behind :
    ¬ Balances twoSlots 0 [.allocate 7] ∧
      ∃ lived,
        exec step [.allocate 7] (start twoSlots 0) = some lived ∧
          live lived.lifetimes 0 = 2 ∧
          live (lived.lifetimes ++ vectorDestruction 2) 0 = 1 := by
  obtain ⟨lived, ran, same⟩ := exec_allocated
  have counted : Counted twoSlots lived := counted_of_exec ran
  have lives := counted.lives 0
  rw [timesHandedOut, same] at lives
  constructor
  · intro balances
    have atMostOne := balances.atMostOne.1 0
    exact absurd atMostOne (by decide)
  · refine ⟨lived, ran, lives, ?_⟩
    rw [live_append, lives, live_vectorDestruction]
    rfl

end Lived

end MemPool

end LowLatencyBlocks
