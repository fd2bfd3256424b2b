import LowLatencyBlocks.Library.Machine
import LowLatencyBlocks.BinaryLoggerRingBuffer.RingBuffer

/-!
# The counter of the ring buffer

The public calls in any order.  A slot is readable from the `move_write_index()`
that passes it to the `move_read_index()` that passes it, or to a store into it
through `push_into()`.

`size_` is incremented and decremented unconditionally.  It is the number of
readable slots as long as nothing is stored or counted past a full buffer and
nothing is popped from an empty one; the first call that does so sets it wrong.
-/

namespace LowLatencyBlocks

open Library

namespace RingBuffer

/-- The public calls; `stored` is what the caller stores through the pointer of
`push_into()`, if it does. -/
inductive Call (T : Type) where
  | pushInto (stored : Option T)
  | moveWriteIndex
  | popNext
  | moveReadIndex
  deriving DecidableEq, Repr

/-- The buffer, its readable slots, and the numbers of calls of
`move_write_index()` and `move_read_index()`. -/
structure Driven (T : Type) where
  ring : RingBuffer T
  readable : Finset Nat
  written : Nat
  taken : Nat

namespace Driven

variable {T : Type}

def start (capacity : Capacity) (default : T) : Driven T where
  ring := make capacity default
  readable := ∅
  written := 0
  taken := 0

def step (driven : Driven T) : Call T → Option (Driven T)
  | .pushInto none => some driven
  | .pushInto (some value) =>
      some
        { driven with
          ring := driven.ring.writeSlot driven.ring.pushInto value
          readable := driven.readable.erase driven.ring.pushInto }
  | .moveWriteIndex =>
      some
        { driven with
          ring := driven.ring.moveWriteIndex
          readable := insert driven.ring.pushInto driven.readable
          written := driven.written + 1 }
  | .popNext => some driven
  | .moveReadIndex =>
      some
        { driven with
          ring := driven.ring.moveReadIndex
          readable := driven.readable.erase driven.ring.popNext
          taken := driven.taken + 1 }

/-- After the call `size()` is the number of readable slots, and at most the
number of slots. -/
def Agrees (_before : Driven T) (_call : Call T) (after : Driven T) : Prop :=
  after.ring.size.toNat = after.readable.card ∧
    after.ring.size.toNat ≤ after.ring.buffer.length

/-- The call neither runs past a full buffer nor pops from an empty one. -/
def Admissible
    (before : Driven T) (call : Call T) (_after : Driven T) : Prop :=
  match call with
  | .pushInto none => True
  | .pushInto (some _) =>
      before.written < before.taken + before.ring.buffer.length
  | .moveWriteIndex =>
      before.written < before.taken + before.ring.buffer.length
  | .popNext => True
  | .moveReadIndex => before.taken < before.written

/-- What holds while every call has been admissible. -/
structure InStep (capacity : Capacity) (driven : Driven T) : Prop where
  tracks :
    Tracks capacity driven.ring [] 0 driven.written driven.taken
      (driven.written - driven.taken)
  order : driven.taken ≤ driven.written
  window : driven.written ≤ driven.taken + capacity.size
  readable :
    driven.readable = slotsOf capacity.size driven.taken driven.written

namespace InStep

variable {capacity : Capacity} {driven : Driven T}

theorem start (capacity : Capacity) (default : T) :
    InStep capacity (Driven.start capacity default) where
  tracks := Tracks.make capacity default
  order := Nat.le_refl 0
  window := Nat.zero_le _
  readable := slotsOf_empty.symm

theorem length_eq (inStep : InStep capacity driven) :
    driven.ring.buffer.length = capacity.size :=
  inStep.tracks.length

theorem card_readable (inStep : InStep capacity driven) :
    driven.readable.card = driven.written - driven.taken := by
  rw [inStep.readable, card_slotsOf inStep.window]

theorem size_toNat (inStep : InStep capacity driven) :
    driven.ring.size.toNat = driven.written - driven.taken := by
  have window := inStep.window
  have fits := capacity.fits
  rw [inStep.tracks.size_toNat]
  exact Nat.mod_eq_of_lt (by omega)

theorem agrees
    (inStep : InStep capacity driven) (before : Driven T) (call : Call T) :
    Agrees before call driven := by
  have window := inStep.window
  constructor
  · rw [inStep.size_toNat, inStep.card_readable]
  · rw [inStep.size_toNat, inStep.length_eq]
    omega

/-! ## Admissible calls -/

/-- A store into a free slot changes nothing that is readable. -/
theorem store
    (inStep : InStep capacity driven)
    (free : driven.written < driven.taken + capacity.size) (value : T) :
    InStep capacity
      { driven with
        ring := driven.ring.writeSlot driven.ring.pushInto value
        readable := driven.readable.erase driven.ring.pushInto } where
  tracks := inStep.tracks.writeSlot_unlogged _ value
  order := inStep.order
  window := inStep.window
  readable := by
    have outside : driven.ring.pushInto ∉ driven.readable := by
      rw [inStep.readable, inStep.tracks.pushInto_eq]
      exact notMem_slotsOf_last free
    rw [Finset.erase_eq_of_notMem outside]
    exact inStep.readable

theorem moveWriteIndex
    (inStep : InStep capacity driven)
    (free : driven.written < driven.taken + capacity.size) :
    InStep capacity
      { driven with
        ring := driven.ring.moveWriteIndex
        readable := insert driven.ring.pushInto driven.readable
        written := driven.written + 1 } where
  tracks := by
    have moved := (inStep.tracks.storeWriteIndex).incrementSize
    rw [← Nat.sub_add_comm inStep.order] at moved
    exact moved
  order := Nat.le_succ_of_le inStep.order
  window := free
  readable := by
    simp only
    rw [inStep.readable, inStep.tracks.pushInto_eq,
      slotsOf_succ inStep.order]

theorem moveReadIndex
    (inStep : InStep capacity driven)
    (waiting : driven.taken < driven.written) :
    InStep capacity
      { driven with
        ring := driven.ring.moveReadIndex
        readable := driven.readable.erase driven.ring.popNext
        taken := driven.taken + 1 } where
  tracks := by
    have moved := (inStep.tracks.storeReadIndex).decrementSize (by omega)
    rw [Nat.sub_sub] at moved
    exact moved
  order := waiting
  window := by
    have window := inStep.window
    simp only
    omega
  readable := by
    simp only
    rw [inStep.readable, inStep.tracks.popNext_eq,
      slotsOf_erase_first waiting inStep.window]

theorem next
    (inStep : InStep capacity driven) {call : Call T} {after : Driven T}
    (stepped : step driven call = some after)
    (admissible : Admissible driven call after) :
    InStep capacity after := by
  unfold Admissible at admissible
  rw [inStep.length_eq] at admissible
  cases call with
  | pushInto stored =>
      cases stored with
      | none =>
          cases stepped
          exact inStep
      | some value =>
          cases stepped
          exact inStep.store admissible value
  | moveWriteIndex =>
      cases stepped
      exact inStep.moveWriteIndex admissible
  | popNext =>
      cases stepped
      exact inStep
  | moveReadIndex =>
      cases stepped
      exact inStep.moveReadIndex admissible

/-! ## The first call that is not admissible -/

/-- A store into the oldest slot of a full buffer, which stays counted. -/
theorem free_of_store
    (inStep : InStep capacity driven) {value : T} {call : Call T}
    (agrees :
      Agrees driven call
        { driven with
          ring := driven.ring.writeSlot driven.ring.pushInto value
          readable := driven.readable.erase driven.ring.pushInto }) :
    driven.written < driven.taken + capacity.size := by
  by_contra full
  have window := inStep.window
  have positive := capacity.positive
  have whole : driven.written = driven.taken + capacity.size := by omega
  have oldest : driven.ring.pushInto ∈ driven.readable := by
    rw [inStep.readable, inStep.tracks.pushInto_eq, whole,
      Nat.add_mod_right]
    exact mem_slotsOf_self (by omega)
  have same : driven.ring.size.toNat =
      (driven.readable.erase driven.ring.pushInto).card :=
    agrees.1
  rw [Finset.card_erase_of_mem oldest, inStep.card_readable,
    inStep.size_toNat] at same
  omega

/-- A slot counted twice. -/
theorem free_of_moveWriteIndex
    (inStep : InStep capacity driven) {call : Call T}
    (agrees :
      Agrees driven call
        { driven with
          ring := driven.ring.moveWriteIndex
          readable := insert driven.ring.pushInto driven.readable
          written := driven.written + 1 }) :
    driven.written < driven.taken + capacity.size := by
  by_contra full
  have window := inStep.window
  have positive := capacity.positive
  have fits := capacity.fits
  have moved := (inStep.tracks.storeWriteIndex).incrementSize
  have size : driven.ring.moveWriteIndex.size.toNat =
      (driven.written - driven.taken + 1) % 2 ^ 64 :=
    moved.size_toNat
  have length : driven.ring.moveWriteIndex.buffer.length =
      capacity.size :=
    moved.length
  obtain ⟨same, bound⟩ := agrees
  simp only [length] at same bound
  -- the counter is the capacity and one more, or it has wrapped to zero
  have nonempty :
      0 < (insert driven.ring.pushInto driven.readable).card :=
    Finset.card_pos.mpr (Finset.insert_nonempty _ _)
  omega

/-- The counter of an empty buffer wraps. -/
theorem waiting_of_moveReadIndex
    (inStep : InStep capacity driven) {call : Call T}
    (agrees :
      Agrees driven call
        { driven with
          ring := driven.ring.moveReadIndex
          readable := driven.readable.erase driven.ring.popNext
          taken := driven.taken + 1 }) :
    driven.taken < driven.written := by
  by_contra caughtUp
  have none : driven.written - driven.taken = 0 := by omega
  have noSlots : driven.readable = ∅ := by
    rw [← Finset.card_eq_zero, inStep.card_readable, none]
  have zero : driven.ring.count = 0 := by
    have count : driven.ring.count =
        BitVec.ofNat 64 (driven.written - driven.taken) :=
      inStep.tracks.storeSize
    rw [count, none]
    rfl
  have same := agrees.1
  simp only [noSlots, Finset.erase_empty, Finset.card_empty] at same
  have wrapped : driven.ring.moveReadIndex.size = 0 - 1 := by
    rw [← zero]
    rfl
  rw [wrapped] at same
  exact absurd same (by decide)

theorem admissible_of_agrees
    (inStep : InStep capacity driven) {call : Call T} {after : Driven T}
    (stepped : step driven call = some after)
    (agrees : Agrees driven call after) :
    Admissible driven call after := by
  unfold Admissible
  rw [inStep.length_eq]
  cases call with
  | pushInto stored =>
      cases stored with
      | none =>
          exact trivial
      | some value =>
          cases stepped
          exact inStep.free_of_store agrees
  | moveWriteIndex =>
      cases stepped
      exact inStep.free_of_moveWriteIndex agrees
  | popNext =>
      exact trivial
  | moveReadIndex =>
      cases stepped
      exact inStep.waiting_of_moveReadIndex agrees

theorem agrees_iff
    (inStep : InStep capacity driven) {call : Call T} {after : Driven T}
    (stepped : step driven call = some after) :
    Agrees driven call after ↔ Admissible driven call after := by
  constructor
  · exact inStep.admissible_of_agrees stepped
  · intro admissible
    exact (inStep.next stepped admissible).agrees driven call

end InStep

/-- After every call of a run `size()` is the number of readable slots, exactly
when every call is admissible. -/
theorem ring_counter_iff
    (capacity : Capacity) (default : T) (calls : List (Call T)) :
    EachStep step Agrees calls (start capacity default) ↔
      EachStep step Admissible calls (start capacity default) :=
  eachStep_congr (fun inStep stepped => inStep.agrees_iff stepped)
    (fun inStep stepped agrees =>
      inStep.next stepped (inStep.admissible_of_agrees stepped agrees))
    calls (InStep.start capacity default)

/-- Three pushes into two slots count to three, and `move_read_index()` on a new
buffer counts down from zero. -/
theorem ring_counter_drifts :
    ¬ EachStep step Agrees
        [.pushInto (some 0), .moveWriteIndex, .pushInto (some 1),
          .moveWriteIndex, .pushInto (some 2), .moveWriteIndex]
        (start twoSlots 0) ∧
      ¬ EachStep step Agrees [.moveReadIndex] (start twoSlots 0) := by
  constructor
  · intro each
    obtain ⟨_, each⟩ := each _ rfl
    obtain ⟨_, each⟩ := each _ rfl
    obtain ⟨_, each⟩ := each _ rfl
    obtain ⟨_, each⟩ := each _ rfl
    obtain ⟨_, each⟩ := each _ rfl
    obtain ⟨⟨_, bound⟩, _⟩ := each _ rfl
    have three : (3 : Nat) ≤ 2 := bound
    omega
  · intro each
    obtain ⟨⟨_, bound⟩, _⟩ := each _ rfl
    have wrapped : 2 ^ 64 - 1 ≤ 2 := bound
    omega

end Driven

end RingBuffer

end LowLatencyBlocks
