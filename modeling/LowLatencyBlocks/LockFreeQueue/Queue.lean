import LowLatencyBlocks.Library.CyclicStore
import LowLatencyBlocks.Library.WrappingCounter
import LowLatencyBlocks.Macros

/-!
# The single-producer single-consumer queue

The class `LFQueue` of `lf_queue.h`.  A slot pointer is the index of the slot.
Each of the three atomic words has one definition for each store to it, so
that an interleaving can stop between any two of them; the methods of the class
are their compositions.

`Tracks` relates a queue to the numbers of stores made to its words and to the
log of the values written.  There is one lemma about it for each operation, and
all later invariants are built from it.
-/

namespace LowLatencyBlocks

open Library

/-- `LFQueue<T>`.  The indices stay below `store.length`, so that they never
wrap as `size_t`; `storeSize` may. -/
structure LFQueue (T : Type) where
  store : List T
  nextWriteIndex : Nat
  nextReadIndex : Nat
  storeSize : SizeT
  deriving DecidableEq, Repr

namespace LFQueue

variable {T : Type}

/-- `LFQueue(size_t size) : store_(size, T())`. -/
def make (capacity : Capacity) (default : T) : LFQueue T where
  store := List.replicate capacity.size default
  nextWriteIndex := 0
  nextReadIndex := 0
  storeSize := 0

/-- `getNextToWriteTo()`. -/
def getNextToWriteTo (queue : LFQueue T) : Nat :=
  queue.nextWriteIndex

/-- `getNextToRead()`; `none` is `nullptr`. -/
def getNextToRead (queue : LFQueue T) : Option Nat :=
  if queue.nextReadIndex = queue.nextWriteIndex then
    none
  else
    some queue.nextReadIndex

/-- `size()`. -/
def size (queue : LFQueue T) : SizeT :=
  queue.storeSize

/-- `*slot = value` through a slot pointer. -/
def writeSlot (queue : LFQueue T) (slot : Nat) (value : T) : LFQueue T :=
  { queue with store := queue.store.set slot value }

/-- The store to `next_write_index_` in `updateNextToWriteTo()`. -/
def storeWriteIndex (queue : LFQueue T) : LFQueue T :=
  { queue with
    nextWriteIndex := (queue.nextWriteIndex + 1) % queue.store.length }

/-- `store_size_++` in `updateNextToWriteTo()`. -/
def incrementSize (queue : LFQueue T) : LFQueue T :=
  { queue with storeSize := queue.storeSize + 1 }

/-- `updateNextToWriteTo()`. -/
def updateNextToWriteTo (queue : LFQueue T) : LFQueue T :=
  queue.storeWriteIndex.incrementSize

/-- The store to `next_read_index_` in `updateReadIndex()`. -/
def storeReadIndex (queue : LFQueue T) : LFQueue T :=
  { queue with
    nextReadIndex := (queue.nextReadIndex + 1) % queue.store.length }

/-- The `ASSERT` in `updateReadIndex()`; `self` is `pthread_self()`. -/
def assertStoreSize (queue : LFQueue T) (self : Nat) : Except Fault Unit :=
  assert (decide (queue.storeSize ≠ 0))
    ("Invalid store size: " ++ toString self)

/-- `store_size_--` in `updateReadIndex()`. -/
def decrementSize (queue : LFQueue T) : LFQueue T :=
  { queue with storeSize := queue.storeSize - 1 }

/-- `updateReadIndex()`. -/
def updateReadIndex (queue : LFQueue T) (self : Nat) :
    Except Fault (LFQueue T) := do
  let queue := queue.storeReadIndex
  queue.assertStoreSize self
  return queue.decrementSize

theorem assertStoreSize_eq_ok_iff (queue : LFQueue T) (self : Nat) :
    queue.assertStoreSize self = .ok () ↔ queue.storeSize ≠ 0 := by
  rw [assertStoreSize, assert_eq_ok_iff, decide_eq_true_iff]

theorem storeSize_eq_zero_of_assert
    {queue : LFQueue T} {self : Nat} {fault : Fault}
    (fails : queue.assertStoreSize self = .error fault) :
    queue.storeSize = 0 := by
  by_contra nonzero
  rw [(assertStoreSize_eq_ok_iff _ _).mpr nonzero] at fails
  cases fails

/-! ## What the words of a queue say -/

/-- After `published` stores to `next_write_index_`, `released` stores to
`next_read_index_` and `count` more increments than decrements of
`store_size_`, with `log` the values written and `begun` the writes begun. -/
structure Tracks
    (capacity : Capacity) (queue : LFQueue T) (log : List T)
    (begun published released count : Nat) : Prop where
  length : queue.store.length = capacity.size
  writeIndex : queue.nextWriteIndex = published % capacity.size
  readIndex : queue.nextReadIndex = released % capacity.size
  storeSize : queue.storeSize = BitVec.ofNat 64 count
  slots : KeepsRecent queue.store log begun

theorem tracks_make (capacity : Capacity) (default : T) :
    Tracks capacity (make capacity default) [] 0 0 0 0 where
  length := List.length_replicate
  writeIndex := (Nat.zero_mod _).symm
  readIndex := (Nat.zero_mod _).symm
  storeSize := rfl
  slots := keepsRecent_empty _ 0

namespace Tracks

variable {capacity : Capacity} {queue : LFQueue T} {log : List T}
  {begun published released count : Nat}

theorem writeIndex_lt
    (tracks : Tracks capacity queue log begun published released count) :
    queue.nextWriteIndex < capacity.size := by
  rw [tracks.writeIndex]
  exact Nat.mod_lt _ capacity.positive

theorem readIndex_lt
    (tracks : Tracks capacity queue log begun published released count) :
    queue.nextReadIndex < capacity.size := by
  rw [tracks.readIndex]
  exact Nat.mod_lt _ capacity.positive

theorem getNextToRead_eq_none_iff
    (tracks : Tracks capacity queue log begun published released count)
    (order : released ≤ published) :
    queue.getNextToRead = none ↔ capacity.size ∣ published - released := by
  rw [← mod_eq_iff_dvd_sub order, ← tracks.readIndex, ← tracks.writeIndex]
  by_cases equal : queue.nextReadIndex = queue.nextWriteIndex
  · simp [getNextToRead, equal]
  · simp [getNextToRead, equal]

theorem getNextToRead_eq_some_iff
    (tracks : Tracks capacity queue log begun published released count)
    (order : released ≤ published) {slot : Nat} :
    queue.getNextToRead = some slot ↔
      slot = released % capacity.size ∧
        ¬ capacity.size ∣ published - released := by
  rw [← mod_eq_iff_dvd_sub order, ← tracks.readIndex, ← tracks.writeIndex]
  by_cases equal : queue.nextReadIndex = queue.nextWriteIndex
  · simp [getNextToRead, equal]
  · simp [getNextToRead, equal, eq_comm]

theorem size_toNat
    (tracks : Tracks capacity queue log begun published released count) :
    queue.size.toNat = count % 2 ^ 64 := by
  rw [size, tracks.storeSize]
  exact counter_toNat

theorem storeSize_eq_zero_iff
    (tracks : Tracks capacity queue log begun published released count) :
    queue.storeSize = 0 ↔ 2 ^ 64 ∣ count := by
  rw [tracks.storeSize]
  exact counter_eq_zero_iff

theorem count_pos_of_storeSize_ne_zero
    (tracks : Tracks capacity queue log begun published released count)
    (nonzero : queue.storeSize ≠ 0) :
    0 < count := by
  apply Nat.pos_of_ne_zero
  rintro rfl
  exact nonzero (tracks.storeSize_eq_zero_iff.mpr (Nat.dvd_zero _))

/-- The value of a written position that is not lapped. -/
theorem slot_value
    (tracks : Tracks capacity queue log begun published released count)
    {position : Nat} (written : position < log.length)
    (recent : begun ≤ position + capacity.size) :
    queue.store[position % capacity.size]? = log[position]? := by
  rw [← tracks.length] at recent ⊢
  exact tracks.slots position written recent

theorem begin
    (tracks : Tracks capacity queue log begun published released count)
    {later : Nat} (order : begun ≤ later) :
    Tracks capacity queue log later published released count where
  length := tracks.length
  writeIndex := tracks.writeIndex
  readIndex := tracks.readIndex
  storeSize := tracks.storeSize
  slots := tracks.slots.begin order

theorem overwrite
    (tracks :
      Tracks capacity queue log (log.length + 1) published released count)
    (value : T) :
    Tracks capacity
      (queue.writeSlot (log.length % capacity.size) value) log
      (log.length + 1) published released count where
  length := by
    simpa [LFQueue.writeSlot] using tracks.length
  writeIndex := tracks.writeIndex
  readIndex := tracks.readIndex
  storeSize := tracks.storeSize
  slots := by
    rw [← tracks.length]
    exact tracks.slots.overwrite value

theorem finish
    (tracks :
      Tracks capacity queue log (log.length + 1) published released count)
    {value : T}
    (written : queue.store[log.length % capacity.size]? = some value) :
    Tracks capacity queue (log ++ [value])
      (log.length + 1) published released count where
  length := tracks.length
  writeIndex := tracks.writeIndex
  readIndex := tracks.readIndex
  storeSize := tracks.storeSize
  slots := by
    rw [← tracks.length] at written
    exact tracks.slots.finish written

theorem slot_inside
    (tracks : Tracks capacity queue log begun published released count)
    (position : Nat) :
    position % capacity.size < queue.store.length := by
  rw [tracks.length]
  exact Nat.mod_lt _ capacity.positive

/-- A push whose slot write is one step. -/
theorem writeSlot
    (tracks : Tracks capacity queue log log.length log.length released count)
    (value : T) :
    Tracks capacity
      (queue.writeSlot queue.getNextToWriteTo value) (log ++ [value])
      (log.length + 1) log.length released count := by
  have overwritten :=
    (tracks.begin (Nat.le_succ _)).overwrite value
  have written :
      (queue.writeSlot (log.length % capacity.size) value).store[
        log.length % capacity.size]? = some value :=
    List.getElem?_set_self (tracks.slot_inside log.length)
  rw [getNextToWriteTo, tracks.writeIndex]
  exact overwritten.finish written

theorem storeWriteIndex
    (tracks : Tracks capacity queue log begun published released count) :
    Tracks capacity queue.storeWriteIndex log
      begun (published + 1) released count where
  length := tracks.length
  writeIndex := by
    rw [LFQueue.storeWriteIndex, tracks.writeIndex, tracks.length]
    exact succ_slot published capacity.size
  readIndex := tracks.readIndex
  storeSize := tracks.storeSize
  slots := tracks.slots

theorem incrementSize
    (tracks : Tracks capacity queue log begun published released count) :
    Tracks capacity queue.incrementSize log
      begun published released (count + 1) where
  length := tracks.length
  writeIndex := tracks.writeIndex
  readIndex := tracks.readIndex
  storeSize := by
    rw [LFQueue.incrementSize, tracks.storeSize]
    exact counter_increment
  slots := tracks.slots

theorem storeReadIndex
    (tracks : Tracks capacity queue log begun published released count) :
    Tracks capacity queue.storeReadIndex log
      begun published (released + 1) count where
  length := tracks.length
  writeIndex := tracks.writeIndex
  readIndex := by
    rw [LFQueue.storeReadIndex, tracks.readIndex, tracks.length]
    exact succ_slot released capacity.size
  storeSize := tracks.storeSize
  slots := tracks.slots

theorem decrementSize
    (tracks : Tracks capacity queue log begun published released count)
    (positive : 0 < count) :
    Tracks capacity queue.decrementSize log
      begun published released (count - 1) where
  length := tracks.length
  writeIndex := tracks.writeIndex
  readIndex := tracks.readIndex
  storeSize := by
    rw [LFQueue.decrementSize, tracks.storeSize]
    exact counter_decrement positive
  slots := tracks.slots

end Tracks

end LFQueue

end LowLatencyBlocks
