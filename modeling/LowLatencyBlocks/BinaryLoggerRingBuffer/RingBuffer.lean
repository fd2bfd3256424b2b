import LowLatencyBlocks.LockFreeQueue.Queue

/-!
# The ring buffer

The class `RingBuffer` of `ringBuffer.h`.  Its three atomic words are those of
the queue, and they are stored in the same order; but `pop_next()` and
`move_read_index()` check nothing, and all slots may be in use.

What `Tracks` says of the words of a queue is said of a ring buffer through
`words`.
-/

namespace LowLatencyBlocks

open Library

/-- `RingBuffer<T>`; `count` is `size_`. -/
structure RingBuffer (T : Type) where
  buffer : List T
  count : SizeT
  readIndex : Nat
  writeIndex : Nat
  deriving DecidableEq, Repr

namespace RingBuffer

variable {T : Type}

/-- `RingBuffer(size_t size) : buffer_(size, T())`. -/
def make (capacity : Capacity) (default : T) : RingBuffer T where
  buffer := List.replicate capacity.size default
  count := 0
  readIndex := 0
  writeIndex := 0

/-- `pop_next()`, as the index of the slot. -/
def popNext (ring : RingBuffer T) : Nat :=
  ring.readIndex

/-- The store to `read_index_` in `move_read_index()`. -/
def storeReadIndex (ring : RingBuffer T) : RingBuffer T :=
  { ring with readIndex := (ring.readIndex + 1) % ring.buffer.length }

/-- `size_--` in `move_read_index()`. -/
def decrementSize (ring : RingBuffer T) : RingBuffer T :=
  { ring with count := ring.count - 1 }

/-- `move_read_index()`. -/
def moveReadIndex (ring : RingBuffer T) : RingBuffer T :=
  ring.storeReadIndex.decrementSize

/-- `push_into()`, as the index of the slot. -/
def pushInto (ring : RingBuffer T) : Nat :=
  ring.writeIndex

/-- `*slot = value` through a slot pointer. -/
def writeSlot (ring : RingBuffer T) (slot : Nat) (value : T) :
    RingBuffer T :=
  { ring with buffer := ring.buffer.set slot value }

/-- The store to `write_index_` in `move_write_index()`. -/
def storeWriteIndex (ring : RingBuffer T) : RingBuffer T :=
  { ring with writeIndex := (ring.writeIndex + 1) % ring.buffer.length }

/-- `size_++` in `move_write_index()`. -/
def incrementSize (ring : RingBuffer T) : RingBuffer T :=
  { ring with count := ring.count + 1 }

/-- `move_write_index()`. -/
def moveWriteIndex (ring : RingBuffer T) : RingBuffer T :=
  ring.storeWriteIndex.incrementSize

/-- `size()`. -/
def size (ring : RingBuffer T) : SizeT :=
  ring.count

/-- The words of the buffer as those of a queue. -/
def words (ring : RingBuffer T) : LFQueue T where
  store := ring.buffer
  nextWriteIndex := ring.writeIndex
  nextReadIndex := ring.readIndex
  storeSize := ring.count

/-- After `written` stores to `write_index_`, `taken` stores to `read_index_` and
`count` more increments than decrements of `size_`, with `log` the values
written. -/
abbrev Tracks
    (capacity : Capacity) (ring : RingBuffer T) (log : List T)
    (begun written taken count : Nat) : Prop :=
  LFQueue.Tracks capacity ring.words log begun written taken count

namespace Tracks

variable {capacity : Capacity} {ring : RingBuffer T} {log : List T}
  {begun written taken count : Nat}

theorem make (capacity : Capacity) (default : T) :
    Tracks capacity (RingBuffer.make capacity default) [] 0 0 0 0 :=
  LFQueue.tracks_make capacity default

theorem writeSlot
    (tracks : Tracks capacity ring log log.length log.length taken count)
    (value : T) :
    Tracks capacity (ring.writeSlot ring.pushInto value) (log ++ [value])
      (log.length + 1) log.length taken count :=
  LFQueue.Tracks.writeSlot tracks value

theorem storeWriteIndex
    (tracks : Tracks capacity ring log begun written taken count) :
    Tracks capacity ring.storeWriteIndex log
      begun (written + 1) taken count :=
  LFQueue.Tracks.storeWriteIndex tracks

theorem incrementSize
    (tracks : Tracks capacity ring log begun written taken count) :
    Tracks capacity ring.incrementSize log
      begun written taken (count + 1) :=
  LFQueue.Tracks.incrementSize tracks

theorem storeReadIndex
    (tracks : Tracks capacity ring log begun written taken count) :
    Tracks capacity ring.storeReadIndex log
      begun written (taken + 1) count :=
  LFQueue.Tracks.storeReadIndex tracks

theorem decrementSize
    (tracks : Tracks capacity ring log begun written taken count)
    (positive : 0 < count) :
    Tracks capacity ring.decrementSize log
      begun written taken (count - 1) :=
  LFQueue.Tracks.decrementSize tracks positive

/-- Without a log the slots may hold anything. -/
theorem writeSlot_unlogged
    (tracks : Tracks capacity ring [] begun written taken count)
    (slot : Nat) (value : T) :
    Tracks capacity (ring.writeSlot slot value) []
      begun written taken count where
  length := by
    simpa [RingBuffer.writeSlot, words] using tracks.length
  writeIndex := tracks.writeIndex
  readIndex := tracks.readIndex
  storeSize := tracks.storeSize
  slots := keepsRecent_empty _ begun

theorem pushInto_eq
    (tracks : Tracks capacity ring log begun written taken count) :
    ring.pushInto = written % capacity.size :=
  tracks.writeIndex

theorem popNext_eq
    (tracks : Tracks capacity ring log begun written taken count) :
    ring.popNext = taken % capacity.size :=
  tracks.readIndex

theorem size_toNat
    (tracks : Tracks capacity ring log begun written taken count) :
    ring.size.toNat = count % 2 ^ 64 :=
  LFQueue.Tracks.size_toNat tracks

theorem count_pos_of_size_ne_zero
    (tracks : Tracks capacity ring log begun written taken count)
    (nonzero : ring.size ≠ 0) :
    0 < count :=
  LFQueue.Tracks.count_pos_of_storeSize_ne_zero tracks nonzero

/-- The value that `*pop_next()` finds, when the position is the newest one
written to its slot. -/
theorem found
    (tracks : Tracks capacity ring log begun written taken count)
    {position : Nat} (inside : position < log.length)
    (recent : begun ≤ position + capacity.size)
    (slot : position % capacity.size = taken % capacity.size) :
    ring.buffer[ring.popNext]? = log[position]? := by
  rw [tracks.popNext_eq, ← slot]
  exact LFQueue.Tracks.slot_value tracks inside recent

end Tracks

end RingBuffer

end LowLatencyBlocks
