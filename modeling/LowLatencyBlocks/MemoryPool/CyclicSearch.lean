import Mathlib.Data.List.Range
import LowLatencyBlocks.MemoryPool.MemPool

/-!
# The search for the next free block

`updateNextFreeIndex` is meant to go once around the vector.  At the end of the
vector it compares the cursor with zero instead of setting it, so that it finds
the blocks behind the cursor only, and otherwise leaves the vector.
-/

namespace LowLatencyBlocks

namespace MemPool

variable {T : Type}

/-- What the loop of `updateNextFreeIndex()` does: the indices whose `is_free_`
it reads, in order, and how it ends. -/
structure Search where
  reads : List Nat
  result : Except Fault Nat

/-- The loop of `updateNextFreeIndex()` once more, with its reads. -/
def tracedSearch
    (store : List (ObjectBlock T)) (init next : Nat) : Search :=
  match found : store[next]? with
  | none => ⟨[next], .error (.outOfRange next)⟩
  | some block =>
      if block.isFree then
        ⟨[next], .ok next⟩
      else
        let advanced := atEndOfVector store.length (next + 1)
        match assert (decide (init ≠ advanced)) "Memory Pool out of space" with
        | .error fault => ⟨[next], .error fault⟩
        | .ok () =>
            let rest := tracedSearch store init advanced
            ⟨next :: rest.reads, rest.result⟩
termination_by store.length - next
decreasing_by
  obtain ⟨inside, _⟩ := List.getElem?_eq_some_iff.mp found
  rw [atEndOfVector_eq]
  omega

/-- The indices that `updateNextFreeIndex()` reads. -/
def searchReads (pool : MemPool T) : List Nat :=
  (tracedSearch pool.store pool.nextFreeIndex pool.nextFreeIndex).reads

/-- The indices of the other blocks, once around the vector. -/
def cyclicOrder (size cursor : Nat) : List Nat :=
  List.range' (cursor + 1) (size - (cursor + 1)) ++ List.range cursor

def isFreeAt (store : List (ObjectBlock T)) (index : Nat) : Bool :=
  store[index]?.any ObjectBlock.isFree

/-- The cursor goes to the first free block in the cyclic order; without one,
the process ends after a full turn.  Only the vector is read, and no more than
once around. -/
structure SearchesCyclically (pool : MemPool T) : Prop where
  ends :
    pool.updateNextFreeIndex =
      match (cyclicOrder pool.store.length pool.nextFreeIndex).find?
          (isFreeAt pool.store) with
      | some found => .ok { pool with nextFreeIndex := found }
      | none => .error (.exit "Memory Pool out of space")
  inside : ∀ index ∈ pool.searchReads, index < pool.store.length
  atMost : pool.searchReads.length ≤ pool.store.length
  fullTurn :
    (∀ index, ¬ FlagAt pool.store index true) →
      pool.searchReads.length = pool.store.length

section Tracing

variable {store : List (ObjectBlock T)} {init next : Nat}

/-- One turn of the loop, as long as it is not back where it started. -/
theorem tracedSearch_of_present
    {block : ObjectBlock T} (present : store[next]? = some block)
    (order : init ≤ next) :
    tracedSearch store init next =
      if block.isFree then
        ⟨[next], .ok next⟩
      else
        ⟨next :: (tracedSearch store init (next + 1)).reads,
          (tracedSearch store init (next + 1)).result⟩ := by
  have apart : init ≠ next + 1 := by omega
  rw [tracedSearch]
  split
  · next absent =>
      rw [present] at absent
      cases absent
  · next block found =>
      rw [present] at found
      cases found
      simp only [atEndOfVector_eq, decide_eq_true apart]
      rfl

theorem tracedSearch_of_free
    (free : FlagAt store next true) (order : init ≤ next) :
    tracedSearch store init next = ⟨[next], .ok next⟩ := by
  obtain ⟨object, present⟩ := free
  rw [tracedSearch_of_present present order, if_pos rfl]

theorem tracedSearch_of_used
    (used : FlagAt store next false) (order : init ≤ next) :
    tracedSearch store init next =
      ⟨next :: (tracedSearch store init (next + 1)).reads,
        (tracedSearch store init (next + 1)).result⟩ := by
  obtain ⟨object, present⟩ := used
  rw [tracedSearch_of_present present order, if_neg Bool.false_ne_true]

theorem tracedSearch_of_length_le (outside : store.length ≤ next) :
    tracedSearch store init next =
      ⟨[next], .error (.outOfRange next)⟩ := by
  have absent := List.getElem?_eq_none outside
  rw [tracedSearch]
  split
  · rfl
  · next block found =>
      rw [absent] at found
      cases found

/-- The traced loop ends as the loop does. -/
theorem tracedSearch_result (order : init ≤ next) :
    (tracedSearch store init next).result = searchFree store init next := by
  -- induction on the number of blocks from the cursor to the end
  induction distance : store.length - next generalizing next with
  | zero =>
      have outside : store.length ≤ next := by omega
      rw [tracedSearch_of_length_le outside,
        searchFree_of_length_le outside]
  | succ shorter inductionHypothesis =>
      have inside : next < store.length := by omega
      rcases flagAt_of_lt inside with free | used
      · rw [tracedSearch_of_free free order, searchFree_of_free free]
      · rw [tracedSearch_of_used used order, searchFree_of_used used order]
        exact inductionHypothesis (by omega) (by omega)

/-- The reads of a search that passes used blocks up to a free one. -/
theorem reads_of_found
    {found : Nat} (order : init ≤ next) (later : next ≤ found)
    (free : FlagAt store found true)
    (passed :
      ∀ index, next ≤ index → index < found →
        FlagAt store index false) :
    (tracedSearch store init next).reads =
      List.range' next (found + 1 - next) := by
  induction distance : found - next generalizing next with
  | zero =>
      have here : next = found := by omega
      rw [tracedSearch_of_free (here ▸ free) order, here,
        Nat.add_sub_cancel_left]
      rfl
  | succ shorter inductionHypothesis =>
      have before : next < found := by omega
      have used := passed next (Nat.le_refl next) before
      have split : found + 1 - next = found + 1 - (next + 1) + 1 := by
        omega
      rw [tracedSearch_of_used used order,
        inductionHypothesis (by omega) before ?_ (by omega), split,
        List.range'_succ]
      intro index atLeast below
      exact passed index (by omega) below

/-- A search that finds nothing reads behind the vector. -/
theorem length_mem_reads
    (order : init ≤ next) (inside : next ≤ store.length)
    (used :
      ∀ index, next ≤ index → index < store.length →
        FlagAt store index false) :
    store.length ∈ (tracedSearch store init next).reads := by
  induction distance : store.length - next generalizing next with
  | zero =>
      have atEnd : next = store.length := by omega
      rw [atEnd, tracedSearch_of_length_le (Nat.le_refl _)]
      exact List.mem_singleton_self _
  | succ shorter inductionHypothesis =>
      have before : next < store.length := by omega
      rw [tracedSearch_of_used (used next (Nat.le_refl next) before) order]
      apply List.mem_cons_of_mem
      apply inductionHypothesis (by omega) before _ (by omega)
      intro index atLeast below
      exact used index (by omega) below

theorem isFreeAt_eq_true_iff {index : Nat} :
    isFreeAt store index = true ↔ FlagAt store index true := by
  rw [isFreeAt, Option.any_eq_true, FlagAt]
  constructor
  · rintro ⟨⟨object, isFree⟩, present, free⟩
    cases free
    exact ⟨object, present⟩
  · rintro ⟨object, present⟩
    exact ⟨_, present, rfl⟩

/-- A free block behind the cursor is the first one in the cyclic order, if the
blocks between are used. -/
theorem find?_cyclicOrder
    {cursor found : Nat} (later : cursor < found)
    (free : FlagAt store found true)
    (passed :
      ∀ index, cursor < index → index < found →
        FlagAt store index false) :
    (cyclicOrder store.length cursor).find? (isFreeAt store) =
      some found := by
  have ahead :
      (List.range' (cursor + 1) (store.length - (cursor + 1))).find?
        (isFreeAt store) = some found := by
    rw [List.find?_range'_eq_some]
    refine ⟨isFreeAt_eq_true_iff.mpr free, ?_, ?_⟩
    · have inside := free.lt
      rw [List.mem_range'_1]
      omega
    · intro index atLeast below
      rw [Bool.not_eq_true', ← Bool.not_eq_true, isFreeAt_eq_true_iff]
      intro freeToo
      cases freeToo.unique (passed index atLeast below)
  rw [cyclicOrder, List.find?_append, ahead]
  rfl

end Tracing

/-! ## When the search is cyclic -/

section Pools

variable {pool : MemPool T}

/-- With a free block behind the cursor, the wrap is not needed. -/
theorem searchesCyclically_of_ahead
    (used : FlagAt pool.store pool.nextFreeIndex false)
    (ahead :
      ∃ index,
        pool.nextFreeIndex < index ∧ FlagAt pool.store index true) :
    pool.SearchesCyclically := by
  have order := Nat.le_refl pool.nextFreeIndex
  rcases searchFree_cases order (Nat.le_of_lt used.lt) with
    ⟨found, result, atLeast, free, passed⟩ | ⟨_, allUsed⟩
  · have later : pool.nextFreeIndex < found := by
      apply Nat.lt_of_le_of_ne atLeast
      intro same
      rw [← same] at free
      cases free.unique used
    have inside := free.lt
    have reads : pool.searchReads =
        List.range' pool.nextFreeIndex (found + 1 - pool.nextFreeIndex) :=
      reads_of_found order atLeast free passed
    refine ⟨?_, ?_, ?_, ?_⟩
    · rw [find?_cyclicOrder later free
        fun index beyond => passed index (Nat.le_of_lt beyond)]
      rw [updateNextFreeIndex, result]
      rfl
    · intro index member
      rw [reads, List.mem_range'_1] at member
      omega
    · rw [reads, List.length_range']
      omega
    · intro noneFree
      exact absurd free (noneFree found)
  · obtain ⟨index, beyond, free⟩ := ahead
    cases free.unique (allUsed index (Nat.le_of_lt beyond) free.lt)

/-- A search that finds nothing behind the cursor leaves the vector. -/
theorem ahead_of_searchesCyclically
    (used : FlagAt pool.store pool.nextFreeIndex false)
    (cyclic : pool.SearchesCyclically) :
    ∃ index,
      pool.nextFreeIndex < index ∧ FlagAt pool.store index true := by
  by_contra noneAhead
  have allUsed : ∀ index, pool.nextFreeIndex ≤ index →
      index < pool.store.length → FlagAt pool.store index false := by
    intro index atLeast inside
    rcases Nat.eq_or_lt_of_le atLeast with same | beyond
    · rwa [← same]
    · apply (flagAt_of_lt inside).resolve_left
      intro free
      exact noneAhead ⟨index, beyond, free⟩
  have outside : pool.store.length ∈ pool.searchReads :=
    length_mem_reads (Nat.le_refl _) (Nat.le_of_lt used.lt) allUsed
  exact Nat.lt_irrefl _ (cyclic.inside _ outside)

/-- The search is cyclic exactly when it does not get to the end of the
vector. -/
theorem search_cyclic_iff
    (pool : MemPool T)
    (used : FlagAt pool.store pool.nextFreeIndex false) :
    pool.SearchesCyclically ↔
      ∃ index,
        pool.nextFreeIndex < index ∧ FlagAt pool.store index true := by
  constructor
  · exact ahead_of_searchesCyclically used
  · exact searchesCyclically_of_ahead used

/-- The next block but one is free. -/
theorem search_cyclic_sample :
    (⟨[⟨7, false⟩, ⟨8, false⟩, ⟨0, true⟩], 0⟩ :
      MemPool Nat).SearchesCyclically :=
  (search_cyclic_iff _ ⟨7, rfl⟩).mpr ⟨2, by decide, 0, rfl⟩

/-- The only free block lies before the cursor, or there is none, and the loop
reads behind the vector. -/
theorem search_leaves_vector :
    ¬ (⟨[⟨7, true⟩, ⟨8, false⟩], 1⟩ : MemPool Nat).SearchesCyclically ∧
      ¬ (⟨[⟨7, false⟩], 0⟩ : MemPool Nat).SearchesCyclically := by
  constructor
  · intro cyclic
    obtain ⟨index, beyond, free⟩ :=
      ahead_of_searchesCyclically ⟨8, rfl⟩ cyclic
    have inside : index < 2 := free.lt
    have behind : 1 < index := beyond
    omega
  · intro cyclic
    obtain ⟨index, beyond, free⟩ :=
      ahead_of_searchesCyclically ⟨7, rfl⟩ cyclic
    have inside : index < 1 := free.lt
    have behind : 0 < index := beyond
    omega

end Pools

end MemPool

end LowLatencyBlocks
