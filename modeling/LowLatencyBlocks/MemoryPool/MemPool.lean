import LowLatencyBlocks.Macros

/-!
# The memory pool

The class `MemPool` of `mem_pool.h`.  A pointer to a block is the index of the
block; `deallocate` gets it back as the difference of two pointers, which may be
any integer.
-/

namespace LowLatencyBlocks

structure ObjectBlock (T : Type) where
  object : T
  isFree : Bool
  deriving DecidableEq, Repr

/-- `MemPool<T>`.  The cursor goes at most one past the last block, so that it
never wraps as `size_t`. -/
structure MemPool (T : Type) where
  store : List (ObjectBlock T)
  nextFreeIndex : Nat
  deriving DecidableEq, Repr

namespace MemPool

variable {T : Type}

/-- `MemPool(num_elems)`.  Its `ASSERT` compares the address of the first block
with the address of the first member of that block, so that only the access to
`store_[0]` can fail. -/
def make (numElems : Nat) (default : T) : Except Fault (MemPool T) := do
  let store := List.replicate numElems ⟨default, true⟩
  let _ ← vectorAt store 0
  return { store := store, nextFreeIndex := 0 }

/-- The cursor after the test for the end of the vector. -/
def atEndOfVector (size next : Nat) : Nat :=
  if next = size then
    -- `next_free_index_ == 0;` compares, and drops the result
    next
  else
    next

theorem atEndOfVector_eq (size next : Nat) :
    atEndOfVector size next = next := by
  rw [atEndOfVector, ite_self]

/-- The loop of `updateNextFreeIndex()`.  The `if` around its `ASSERT` tests the
same condition once more. -/
def searchFree
    (store : List (ObjectBlock T)) (init next : Nat) : Except Fault Nat :=
  match found : store[next]? with
  | none => .error (.outOfRange next)
  | some block =>
      if block.isFree then
        .ok next
      else do
        assert (decide (init ≠ atEndOfVector store.length (next + 1)))
          "Memory Pool out of space"
        searchFree store init (atEndOfVector store.length (next + 1))
termination_by store.length - next
decreasing_by
  obtain ⟨inside, _⟩ := List.getElem?_eq_some_iff.mp found
  rw [atEndOfVector_eq]
  omega

/-- `updateNextFreeIndex()`. -/
def updateNextFreeIndex (pool : MemPool T) : Except Fault (MemPool T) := do
  let found ← searchFree pool.store pool.nextFreeIndex pool.nextFreeIndex
  return { pool with nextFreeIndex := found }

/-- The block at the cursor, filled by the placement `new`. -/
def fill (pool : MemPool T) (value : T) : MemPool T :=
  { pool with store := pool.store.set pool.nextFreeIndex ⟨value, false⟩ }

@[simp]
theorem fill_nextFreeIndex (pool : MemPool T) (value : T) :
    (pool.fill value).nextFreeIndex = pool.nextFreeIndex :=
  rfl

/-- `allocate(args...)`, with `value` for `T(args...)`. -/
def allocate (pool : MemPool T) (value : T) :
    Except Fault (Nat × MemPool T) := do
  let block ← vectorAt pool.store pool.nextFreeIndex
  assert block.isFree
    ("Expected free ObjectBlock at index:" ++ toString pool.nextFreeIndex)
  let updated ← (pool.fill value).updateNextFreeIndex
  return (pool.nextFreeIndex, updated)

/-- `deallocate(elem)`, with `elemIndex` for the pointer difference. -/
def deallocate (pool : MemPool T) (elemIndex : Int) :
    Except Fault (MemPool T) := do
  assert
    (decide (0 ≤ elemIndex ∧ elemIndex.toNat < pool.store.length))
    "Element being deallocated does not belong to this Memory pool."
  let block ← vectorAt pool.store elemIndex.toNat
  assert (!block.isFree)
    ("Expected in-use ObjectBlock at index:" ++ toString elemIndex)
  return { pool with
    store := pool.store.set elemIndex.toNat { block with isFree := true } }

/-! ## The search for a free block -/

/-- There is a block at the index, with this flag. -/
def FlagAt (store : List (ObjectBlock T)) (index : Nat) (isFree : Bool) :
    Prop :=
  ∃ object, store[index]? = some ⟨object, isFree⟩

theorem flagAt_of_lt
    {store : List (ObjectBlock T)} {index : Nat}
    (inside : index < store.length) :
    FlagAt store index true ∨ FlagAt store index false := by
  have present := List.getElem?_eq_getElem inside
  cases flag : store[index].isFree with
  | true =>
      refine .inl ⟨store[index].object, ?_⟩
      rw [present, ← flag]
  | false =>
      refine .inr ⟨store[index].object, ?_⟩
      rw [present, ← flag]

theorem FlagAt.lt
    {store : List (ObjectBlock T)} {index : Nat} {isFree : Bool}
    (flagAt : FlagAt store index isFree) : index < store.length := by
  obtain ⟨_, present⟩ := flagAt
  exact (List.getElem?_eq_some_iff.mp present).1

theorem FlagAt.unique
    {store : List (ObjectBlock T)} {index : Nat} {first second : Bool}
    (firstAt : FlagAt store index first)
    (secondAt : FlagAt store index second) :
    first = second := by
  obtain ⟨_, firstPresent⟩ := firstAt
  obtain ⟨_, secondPresent⟩ := secondAt
  rw [firstPresent] at secondPresent
  cases secondPresent
  rfl

theorem flagAt_set_self
    {store : List (ObjectBlock T)} {index : Nat} {block : ObjectBlock T}
    (inside : index < store.length) :
    FlagAt (store.set index block) index block.isFree :=
  ⟨block.object, List.getElem?_set_self inside⟩

theorem flagAt_set_of_ne
    {store : List (ObjectBlock T)} {index other : Nat}
    {block : ObjectBlock T} {isFree : Bool} (apart : index ≠ other) :
    FlagAt (store.set index block) other isFree ↔
      FlagAt store other isFree := by
  rw [FlagAt, FlagAt, List.getElem?_set_ne apart]

section Search

variable {store : List (ObjectBlock T)} {init next : Nat}

/-- One turn of the loop. -/
theorem searchFree_of_present
    {block : ObjectBlock T} (present : store[next]? = some block) :
    searchFree store init next =
      if block.isFree then
        .ok next
      else
        assert (decide (init ≠ next + 1)) "Memory Pool out of space" >>=
          fun _ => searchFree store init (next + 1) := by
  rw [searchFree]
  split
  · next absent =>
      rw [present] at absent
      cases absent
  · next block found =>
      rw [present] at found
      cases found
      rw [atEndOfVector_eq]

theorem searchFree_of_free (free : FlagAt store next true) :
    searchFree store init next = .ok next := by
  obtain ⟨object, present⟩ := free
  rw [searchFree_of_present present, if_pos rfl]

/-- The cursor only grows, so that it never comes back to where it started. -/
theorem searchFree_of_used
    (used : FlagAt store next false) (order : init ≤ next) :
    searchFree store init next = searchFree store init (next + 1) := by
  obtain ⟨object, present⟩ := used
  have apart : init ≠ next + 1 := by omega
  rw [searchFree_of_present present, if_neg Bool.false_ne_true,
    decide_eq_true apart]
  rfl

theorem searchFree_of_length_le (outside : store.length ≤ next) :
    searchFree store init next = .error (.outOfRange next) := by
  have absent := List.getElem?_eq_none outside
  rw [searchFree]
  split
  · rfl
  · next block found =>
      rw [absent] at found
      cases found

/-- Where the loop ends: at the first free block from the cursor on, or past
the end of the vector when there is none. -/
theorem searchFree_cases
    (order : init ≤ next) (inside : next ≤ store.length) :
    (∃ found,
      searchFree store init next = .ok found ∧
      next ≤ found ∧
      FlagAt store found true ∧
      ∀ index, next ≤ index → index < found → FlagAt store index false) ∨
    (searchFree store init next = .error (.outOfRange store.length) ∧
      ∀ index,
        next ≤ index → index < store.length →
        FlagAt store index false) := by
  -- induction on the number of blocks from the cursor to the end
  induction distance : store.length - next generalizing next with
  | zero =>
      have atEnd : next = store.length := by omega
      subst atEnd
      refine .inr ⟨searchFree_of_length_le (Nat.le_refl _), ?_⟩
      intro index atLeast below
      omega
  | succ shorter inductionHypothesis =>
      have before : next < store.length := by omega
      rcases flagAt_of_lt before with free | used
      · refine
          .inl ⟨next, searchFree_of_free free, Nat.le_refl _, free, ?_⟩
        intro index atLeast below
        omega
      · have passed :
            ∀ {limit},
              (∀ index, next + 1 ≤ index → index < limit →
                FlagAt store index false) →
              ∀ index, next ≤ index → index < limit →
                FlagAt store index false := by
          intro limit rest index atLeast below
          rcases Nat.eq_or_lt_of_le atLeast with same | later
          · rwa [← same]
          · exact rest index later below
        rw [searchFree_of_used used order]
        rcases inductionHypothesis (by omega) before (by omega) with
          ⟨found, result, later, free, rest⟩ | ⟨result, rest⟩
        · exact
            .inl
              ⟨found, result, Nat.le_of_succ_le later, free, passed rest⟩
        · exact .inr ⟨result, passed rest⟩

end Search

/-! ## What the two operations do -/

section Operations

variable {pool : MemPool T}

theorem fill_cursor_used
    (inside : pool.nextFreeIndex < pool.store.length) (value : T) :
    FlagAt (pool.fill value).store pool.nextFreeIndex false :=
  flagAt_set_self inside

theorem fill_flagAt_of_ne
    {value : T} {index : Nat} {isFree : Bool}
    (apart : pool.nextFreeIndex ≠ index) :
    FlagAt (pool.fill value).store index isFree ↔
      FlagAt pool.store index isFree :=
  flagAt_set_of_ne apart

/-- With a free block under the cursor, `allocate` takes that block and moves
the cursor to the next free one; without a next one the search leaves the
vector. -/
theorem allocate_cases
    (free : FlagAt pool.store pool.nextFreeIndex true) (value : T) :
    (∃ found,
      pool.allocate value =
        .ok
          (pool.nextFreeIndex,
            { pool.fill value with nextFreeIndex := found }) ∧
      pool.nextFreeIndex < found ∧
      FlagAt pool.store found true ∧
      ∀ index, pool.nextFreeIndex < index → index < found →
        FlagAt pool.store index false) ∨
    (pool.allocate value = .error (.outOfRange pool.store.length) ∧
      ∀ index, pool.nextFreeIndex < index → index < pool.store.length →
        FlagAt pool.store index false) := by
  obtain ⟨object, present⟩ := free
  have inside : pool.nextFreeIndex < pool.store.length :=
    (List.getElem?_eq_some_iff.mp present).1
  have length : (pool.fill value).store.length = pool.store.length :=
    List.length_set
  have used := fill_cursor_used inside value
  have searched :=
    searchFree_of_used used (Nat.le_refl pool.nextFreeIndex)
  have allocated :
      pool.allocate value =
        (pool.fill value).updateNextFreeIndex.bind
          fun updated => .ok (pool.nextFreeIndex, updated) := by
    rw [allocate, vectorAt_eq_ok_iff.mpr present]
    rfl
  have others :
      ∀ {index isFree},
        pool.nextFreeIndex < index →
        FlagAt (pool.fill value).store index isFree →
        FlagAt pool.store index isFree :=
    fun later flagAt =>
      (fill_flagAt_of_ne (Nat.ne_of_lt later)).mp flagAt
  rw [allocated, updateNextFreeIndex, fill_nextFreeIndex, searched]
  have begun : pool.nextFreeIndex ≤ pool.nextFreeIndex + 1 :=
    Nat.le_succ _
  rcases searchFree_cases begun (length ▸ inside) with
    ⟨found, result, later, freeAt, passed⟩ | ⟨result, passed⟩
  · refine .inl ⟨found, ?_, later, others later freeAt, ?_⟩
    · rw [result]
      rfl
    · intro index beyond below
      exact others beyond (passed index beyond below)
  · refine .inr ⟨?_, ?_⟩
    · rw [result, length]
      rfl
    · intro index beyond below
      exact others beyond (passed index beyond (length ▸ below))

/-- An element of the store passes the test that it belongs to the pool. -/
theorem belongs_of_present
    {index : Nat} {block : ObjectBlock T}
    (present : pool.store[index]? = some block) :
    (0 : Int) ≤ (index : Int) ∧ (index : Int).toNat < pool.store.length :=
  ⟨Int.natCast_nonneg index, (List.getElem?_eq_some_iff.mp present).1⟩

theorem deallocate_of_used
    {index : Nat} {object : T}
    (present : pool.store[index]? = some ⟨object, false⟩) :
    pool.deallocate index =
      .ok { pool with store := pool.store.set index ⟨object, true⟩ } := by
  rw [deallocate, decide_eq_true (belongs_of_present present),
    Int.toNat_natCast, vectorAt_eq_ok_iff.mpr present]
  rfl

theorem deallocate_of_free
    {index : Nat} (free : FlagAt pool.store index true) :
    pool.deallocate index =
      .error
        (.exit
          ("Expected in-use ObjectBlock at index:" ++
            toString (index : Int))) := by
  obtain ⟨object, present⟩ := free
  rw [deallocate, decide_eq_true (belongs_of_present present),
    Int.toNat_natCast, vectorAt_eq_ok_iff.mpr present]
  rfl

theorem deallocate_of_foreign
    {elemIndex : Int}
    (foreign :
      ¬ (0 ≤ elemIndex ∧ elemIndex.toNat < pool.store.length)) :
    pool.deallocate elemIndex =
      .error
        (.exit
          "Element being deallocated does not belong to this Memory pool.") := by
  rw [deallocate, decide_eq_false foreign]
  rfl

end Operations

end MemPool

end LowLatencyBlocks
