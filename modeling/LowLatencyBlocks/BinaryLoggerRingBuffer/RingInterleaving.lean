import LowLatencyBlocks.Library.Fifo
import LowLatencyBlocks.BinaryLoggerRingBuffer.RingBuffer

/-!
# One producer and one consumer on the ring buffer

The producer pushes values for ever; the consumer waits for `size()` to be
positive and pops.  Every load, store and slot access is a step of its own, and
the two threads interleave in any order.

With all slots occupied the indices are equal, as they are when the buffer is
empty.  Only `size_` tells the two apart, and it moves after the indices do: a
push is counted after its index is stored, a pop is discounted after its index
is stored.  So `size_` is never above the number of occupied slots, and the
bound on the pushes is taken from the pops that are discounted.
-/

namespace LowLatencyBlocks

open Library

namespace RingBuffer

/-- The accesses of the two threads; the first three are the producer's. -/
inductive Access where
  | writeSlot
  | storeWriteIndex
  | incrementSize
  | loadSize
  | readSlot
  | storeReadIndex
  | decrementSize
  deriving DecidableEq, Repr

inductive Producer where
  | ready
  | written
  | published
  deriving DecidableEq, Repr

inductive Consumer where
  | idle
  /-- After a load of `size()` that was positive. -/
  | admitted
  | taken
  | released
  deriving DecidableEq, Repr

/-- The buffer, both threads, and the history of the run: the values pushed and
read, and how often each atomic word was stored. -/
structure Spsc (T : Type) where
  ring : RingBuffer T
  producer : Producer
  consumer : Consumer
  pushed : List T
  published : Nat
  counted : Nat
  read : List T
  released : Nat
  uncounted : Nat

namespace Spsc

variable {T : Type}

inductive Step : Access → Spsc T → Spsc T → Prop
  | writeSlot {state : Spsc T} (value : T) :
      state.producer = .ready →
      Step .writeSlot state
        { state with
          ring := state.ring.writeSlot state.ring.pushInto value
          producer := .written
          pushed := state.pushed ++ [value] }
  | storeWriteIndex {state : Spsc T} :
      state.producer = .written →
      Step .storeWriteIndex state
        { state with
          ring := state.ring.storeWriteIndex
          producer := .published
          published := state.published + 1 }
  | incrementSize {state : Spsc T} :
      state.producer = .published →
      Step .incrementSize state
        { state with
          ring := state.ring.incrementSize
          producer := .ready
          counted := state.counted + 1 }
  | loadSize {state : Spsc T} :
      state.consumer = .idle →
      Step .loadSize state
        { state with
          consumer := if state.ring.size = 0 then .idle else .admitted }
  | readSlot {state : Spsc T} (value : T) :
      state.consumer = .admitted →
      vectorAt state.ring.buffer state.ring.popNext = .ok value →
      Step .readSlot state
        { state with
          consumer := .taken
          read := state.read ++ [value] }
  | storeReadIndex {state : Spsc T} :
      state.consumer = .taken →
      Step .storeReadIndex state
        { state with
          ring := state.ring.storeReadIndex
          consumer := .released
          released := state.released + 1 }
  | decrementSize {state : Spsc T} :
      state.consumer = .released →
      Step .decrementSize state
        { state with
          ring := state.ring.decrementSize
          consumer := .idle
          uncounted := state.uncounted + 1 }

/-- Both threads before their first step on a new buffer. -/
def start (capacity : Capacity) (default : T) : Spsc T where
  ring := make capacity default
  producer := .ready
  consumer := .idle
  pushed := []
  published := 0
  counted := 0
  read := []
  released := 0
  uncounted := 0

/-- All interleavings of the two threads. -/
def machine (capacity : Capacity) (default : T) :
    Machine (Spsc T) Access where
  start := start capacity default
  step := Step

/-- A push starts only while the pushes started are fewer than `bound` ahead of
the completed calls of `move_read_index()`. -/
def PushesWithin
    (bound : Nat) (access : Access) (before _after : Spsc T) : Prop :=
  access = .writeSlot → before.pushed.length < before.uncounted + bound

/-- The consumer has tested `size()` and has not yet stored `read_index_`: it
reads the slot of `pop_next()`. -/
def Reading (state : Spsc T) : Prop :=
  state.consumer = .admitted ∨ state.consumer = .taken

/-! ## The invariant -/

/-- The producer's stores so far, by its position. -/
def ProducerCounts (state : Spsc T) : Prop :=
  match state.producer with
  | .ready =>
      state.pushed.length = state.published ∧
        state.published = state.counted
  | .written =>
      state.pushed.length = state.published + 1 ∧
        state.published = state.counted
  | .published =>
      state.pushed.length = state.published ∧
        state.published = state.counted + 1

/-- The consumer's reads and stores so far, by its position. -/
def ConsumerCounts (state : Spsc T) : Prop :=
  match state.consumer with
  | .idle =>
      state.released = state.uncounted ∧
        state.read.length = state.released
  | .admitted =>
      state.released = state.uncounted ∧
        state.read.length = state.released ∧
        state.uncounted < state.counted
  | .taken =>
      state.released = state.uncounted ∧
        state.read.length = state.released + 1 ∧
        state.uncounted < state.counted
  | .released =>
      state.released = state.uncounted + 1 ∧
        state.read.length = state.released ∧
        state.uncounted < state.counted

/-- What holds in every state of every interleaving without an overrun. -/
structure Consistent (capacity : Capacity) (state : Spsc T) : Prop where
  tracks :
    Tracks capacity state.ring state.pushed state.pushed.length
      state.published state.released (state.counted - state.uncounted)
  countOrder : state.uncounted ≤ state.counted
  room : state.pushed.length ≤ state.uncounted + capacity.size
  producer : state.ProducerCounts
  consumer : state.ConsumerCounts

namespace Consistent

variable {capacity : Capacity} {default : T} {state : Spsc T}

theorem start :
    (Spsc.start capacity default).Consistent capacity where
  tracks := Tracks.make capacity default
  countOrder := Nat.le_refl 0
  room := Nat.zero_le _
  producer := ⟨rfl, rfl⟩
  consumer := ⟨rfl, rfl⟩

/-- How far the producer's three counts can be apart. -/
theorem producer_bounds (consistent : state.Consistent capacity) :
    state.counted ≤ state.published ∧
      state.published ≤ state.pushed.length := by
  have producer := consistent.producer
  rw [ProducerCounts] at producer
  cases stage : state.producer <;>
    simp only [stage] at producer <;> omega

/-- How far the consumer's three counts can be apart. -/
theorem consumer_bounds (consistent : state.Consistent capacity) :
    state.uncounted ≤ state.released ∧
      state.released ≤ state.read.length ∧
      state.read.length ≤ state.counted := by
  have order := consistent.countOrder
  have consumer := consistent.consumer
  rw [ConsumerCounts] at consumer
  cases stage : state.consumer <;>
    simp only [stage] at consumer <;> omega

theorem read_le_pushed (consistent : state.Consistent capacity) :
    state.read.length ≤ state.pushed.length := by
  have producer := consistent.producer_bounds
  have consumer := consistent.consumer_bounds
  omega

/-- While the consumer reads, an element is counted and not yet released. -/
theorem waits_while_reading
    (consistent : state.Consistent capacity) (reading : state.Reading) :
    state.released = state.uncounted ∧
      state.released < state.published := by
  have producer := consistent.producer_bounds
  have consumer := consistent.consumer
  rw [ConsumerCounts] at consumer
  rcases reading with stage | stage
  · simp only [stage] at consumer
    omega
  · simp only [stage] at consumer
    omega

theorem size_toNat (consistent : state.Consistent capacity) :
    state.ring.size.toNat = state.counted - state.uncounted := by
  have producer := consistent.producer_bounds
  have room := consistent.room
  have fits := capacity.fits
  rw [consistent.tracks.size_toNat]
  exact Nat.mod_eq_of_lt (by omega)

theorem counted_of_size_ne_zero
    (consistent : state.Consistent capacity)
    (nonzero : state.ring.size ≠ 0) :
    state.uncounted < state.counted :=
  Nat.lt_of_sub_pos (consistent.tracks.count_pos_of_size_ne_zero nonzero)

/-- The slot of `pop_next()` holds the oldest value not read. -/
theorem value_of_readSlot
    (consistent : state.Consistent capacity)
    (admitted : state.consumer = .admitted) :
    state.ring.buffer[state.ring.popNext]? =
      state.pushed[state.read.length]? := by
  have producer := consistent.producer_bounds
  have room := consistent.room
  obtain ⟨popped, waiting⟩ := consistent.waits_while_reading (.inl admitted)
  have consumer := consistent.consumer
  simp only [ConsumerCounts, admitted] at consumer
  obtain ⟨_, taken, _⟩ := consumer
  rw [taken]
  exact consistent.tracks.found (by omega) (by omega) rfl

end Consistent

/-- The producer's stores do not disturb the consumer's position. -/
private theorem ConsumerCounts.of_counted
    {state : Spsc T} (counts : state.ConsumerCounts)
    {after : Spsc T}
    (sameConsumer : after.consumer = state.consumer)
    (sameRead : after.read = state.read)
    (sameReleased : after.released = state.released)
    (sameUncounted : after.uncounted = state.uncounted)
    (counted : state.counted ≤ after.counted) :
    after.ConsumerCounts := by
  unfold ConsumerCounts at counts ⊢
  rw [sameConsumer, sameRead, sameReleased, sameUncounted]
  cases stage : state.consumer with
  | idle =>
      simpa only [stage] using counts
  | admitted | taken | released =>
      simp only [stage] at counts ⊢
      obtain ⟨popped, taken, waiting⟩ := counts
      exact ⟨popped, taken, by omega⟩

/-- One step lemma for every step of either thread. -/
theorem Consistent.step
    {capacity : Capacity} {access : Access} {before after : Spsc T}
    (consistent : before.Consistent capacity)
    (step : Step access before after)
    (within : PushesWithin capacity.size access before after) :
    after.Consistent capacity := by
  obtain ⟨tracks, countOrder, room, producer, consumer⟩ := consistent
  cases step with
  | writeSlot value stage =>
      have free : before.pushed.length < before.uncounted + capacity.size :=
        within rfl
      simp only [ProducerCounts, stage] at producer
      obtain ⟨same, counted⟩ := producer
      rw [← same] at tracks
      have written := tracks.writeSlot value
      exact
        { tracks := by
            rw [← same, List.length_append]
            exact written
          countOrder := countOrder
          room := by
            rw [List.length_append, List.length_singleton]
            exact free
          producer := by
            simp only [ProducerCounts, List.length_append,
              List.length_singleton]
            exact ⟨by omega, counted⟩
          consumer :=
            consumer.of_counted rfl rfl rfl rfl (Nat.le_refl _) }
  | storeWriteIndex stage =>
      simp only [ProducerCounts, stage] at producer
      obtain ⟨begun, counted⟩ := producer
      exact
        { tracks := tracks.storeWriteIndex
          countOrder := countOrder
          room := room
          producer := by
            simp only [ProducerCounts]
            exact ⟨begun, by omega⟩
          consumer :=
            consumer.of_counted rfl rfl rfl rfl (Nat.le_refl _) }
  | incrementSize stage =>
      simp only [ProducerCounts, stage] at producer
      obtain ⟨begun, counted⟩ := producer
      have incremented := tracks.incrementSize
      rw [← Nat.sub_add_comm countOrder] at incremented
      exact
        { tracks := incremented
          countOrder := Nat.le_succ_of_le countOrder
          room := room
          producer := by
            simp only [ProducerCounts]
            exact ⟨begun, counted⟩
          consumer :=
            consumer.of_counted rfl rfl rfl rfl (Nat.le_succ _) }
  | loadSize stage =>
      have counted :
          before.ring.size ≠ 0 → before.uncounted < before.counted :=
        Consistent.counted_of_size_ne_zero
          ⟨tracks, countOrder, room, producer, consumer⟩
      simp only [ConsumerCounts, stage] at consumer
      obtain ⟨popped, taken⟩ := consumer
      exact
        { tracks := tracks
          countOrder := countOrder
          room := room
          producer := producer
          consumer := by
            by_cases empty : before.ring.size = 0
            · simp only [ConsumerCounts, if_pos empty]
              exact ⟨popped, taken⟩
            · simp only [ConsumerCounts, if_neg empty]
              exact ⟨popped, taken, counted empty⟩ }
  | readSlot value stage _ =>
      simp only [ConsumerCounts, stage] at consumer
      obtain ⟨popped, taken, waiting⟩ := consumer
      exact
        { tracks := tracks
          countOrder := countOrder
          room := room
          producer := producer
          consumer := by
            simp only [ConsumerCounts, List.length_append,
              List.length_singleton]
            exact ⟨popped, by omega, waiting⟩ }
  | storeReadIndex stage =>
      simp only [ConsumerCounts, stage] at consumer
      obtain ⟨popped, taken, waiting⟩ := consumer
      exact
        { tracks := tracks.storeReadIndex
          countOrder := countOrder
          room := room
          producer := producer
          consumer := by
            simp only [ConsumerCounts]
            exact ⟨by omega, taken, waiting⟩ }
  | decrementSize stage =>
      simp only [ConsumerCounts, stage] at consumer
      obtain ⟨popped, taken, waiting⟩ := consumer
      have decremented := tracks.decrementSize (by omega)
      rw [Nat.sub_sub] at decremented
      exact
        { tracks := decremented
          countOrder := waiting
          room := by
            show before.pushed.length ≤
              before.uncounted + 1 + capacity.size
            omega
          producer := producer
          consumer := by
            simp only [ConsumerCounts]
            exact ⟨popped, taken⟩ }

/-! ## What a run without an overrun delivers -/

section Runs

variable {capacity : Capacity} {default : T} {state : Spsc T}

theorem consistent_of_reachable
    (reached :
      (machine capacity default).Reachable
        (PushesWithin capacity.size) state) :
    state.Consistent capacity :=
  reached.invariant _ Consistent.start
    fun consistent step within => consistent.step step within

/-- Every step is a step of the channel or invisible. -/
theorem channel_step
    {access : Access} {before after : Spsc T}
    (consistent : before.Consistent capacity)
    (step : Step access before after) :
    Fifo.between after.pushed after.read =
        Fifo.between before.pushed before.read ∨
      ∃ event,
        Fifo.Step event (Fifo.between before.pushed before.read)
          (Fifo.between after.pushed after.read) := by
  cases step with
  | writeSlot value _ =>
      exact
        Or.inr ⟨.send value,
          Fifo.Step.between_send consistent.read_le_pushed value⟩
  | readSlot value stage reads =>
      refine Or.inr ⟨.receive value, ?_⟩
      apply Fifo.Step.between_receive
      rw [← consistent.value_of_readSlot stage]
      exact vectorAt_eq_ok_iff.mp reads
  | storeWriteIndex _ | incrementSize _ | loadSize _ | storeReadIndex _
  | decrementSize _ =>
      exact Or.inl rfl

/-- A run without an overrun refines the channel. -/
theorem refines_channel
    (reached :
      (machine capacity default).Reachable
        (PushesWithin capacity.size) state) :
    (Fifo.machine T).Reachable Machine.anyStep
      (Fifo.between state.pushed state.read) := by
  have simulated :=
    reached.simulated
      (Fifo.machine T)
      (fun state image =>
        state.Consistent capacity ∧
          Fifo.between state.pushed state.read = image)
      ⟨Consistent.start, rfl⟩
      (by
        rintro access before after image ⟨consistent, rfl⟩ step within
        have consistentAfter := consistent.step step within
        rcases channel_step consistent step with same | ⟨event, moved⟩
        · exact Or.inl ⟨consistentAfter, same⟩
        · exact Or.inr ⟨event, _, moved, consistentAfter, rfl⟩)
  obtain ⟨image, imageReached, _, same⟩ := simulated
  rw [same]
  exact imageReached

/-- A push that the bound admits writes another slot than the one being
read. -/
theorem Consistent.push_avoids_read
    (consistent : state.Consistent capacity) (reading : state.Reading)
    (free : state.pushed.length < state.uncounted + capacity.size)
    (ready : state.producer = .ready) :
    state.ring.pushInto ≠ state.ring.popNext := by
  have producer := consistent.producer
  simp only [ProducerCounts, ready] at producer
  obtain ⟨popped, waiting⟩ := consistent.waits_while_reading reading
  rw [consistent.tracks.pushInto_eq, consistent.tracks.popNext_eq]
  exact (mod_ne_of_window waiting (by omega)).symm

/-- The buffer as a first-in first-out queue of all its slots. -/
theorem ring_interleavings
    (capacity : Capacity) (default : T) (state : Spsc T)
    (reached :
      (machine capacity default).Reachable
        (PushesWithin capacity.size) state) :
    (∀ (k : Nat) (value : T),
      state.read[k]? = some value → state.pushed[k]? = some value) ∧
    (∀ after,
      Step .writeSlot state after →
      PushesWithin capacity.size .writeSlot state after →
      state.Reading →
      state.ring.pushInto ≠ state.ring.popNext) ∧
    state.ring.pushInto < capacity.size ∧
    state.ring.popNext < capacity.size ∧
    state.uncounted ≤ state.counted ∧
    state.ring.size.toNat = state.counted - state.uncounted ∧
    state.ring.size.toNat ≤ capacity.size := by
  have consistent := consistent_of_reachable reached
  have counter := consistent.size_toNat
  refine ⟨?_, ?_, ?_, ?_, consistent.countOrder, counter, ?_⟩
  · intro k value read
    have inOrder : state.read <+: state.pushed :=
      Fifo.received_prefix_sent (refines_channel reached)
    exact getElem?_of_prefix inOrder read
  · intro after step within reading
    cases step with
    | writeSlot value ready =>
        exact consistent.push_avoids_read reading (within rfl) ready
  · rw [consistent.tracks.pushInto_eq]
    exact Nat.mod_lt _ capacity.positive
  · rw [consistent.tracks.popNext_eq]
    exact Nat.mod_lt _ capacity.positive
  · have producer := consistent.producer_bounds
    have room := consistent.room
    omega

end Runs

/-! ## A full buffer -/

private theorem pushesWithin_other
    {T : Type} {bound : Nat} {access : Access} {before after : Spsc T}
    (other : access ≠ .writeSlot) :
    PushesWithin bound access before after :=
  fun same => absurd same other

/-- Pushes alone occupy as many slots as there are. -/
theorem occupied_reachable
    {T : Type} {capacity : Capacity} {default : T} (value : T)
    (count : Nat) (fits : count ≤ capacity.size) :
    ∃ state,
      (machine capacity default).Reachable
        (PushesWithin capacity.size) state ∧
      state.producer = .ready ∧
      state.consumer = .idle ∧
      state.pushed.length = count ∧
      state.counted = count ∧
      state.uncounted = 0 := by
  induction count with
  | zero =>
      exact ⟨_, Machine.Reachable.start, rfl, rfl, rfl, rfl, rfl⟩
  | succ count inductionHypothesis =>
      obtain ⟨before, reached, ready, idle, pushed, counted, uncounted⟩ :=
        inductionHypothesis (Nat.le_of_succ_le fits)
      have written :=
        reached.next (Step.writeSlot value ready) fun _ => by omega
      have published :=
        written.next (Step.storeWriteIndex rfl)
          (pushesWithin_other (by decide))
      have increased :=
        published.next (Step.incrementSize rfl)
          (pushesWithin_other (by decide))
      refine ⟨_, increased, rfl, idle, ?_, ?_, uncounted⟩
      · rw [List.length_append, List.length_singleton, pushed]
      · rw [counted]

/-- In every buffer all slots can be occupied. -/
theorem full_reachable
    {T : Type} (capacity : Capacity) (default : T) :
    ∃ state,
      (machine capacity default).Reachable
        (PushesWithin capacity.size) state ∧
      state.ring.size.toNat = capacity.size := by
  obtain ⟨state, reached, _, _, _, counted, uncounted⟩ :=
    occupied_reachable default capacity.size (Nat.le_refl _)
  refine ⟨state, reached, ?_⟩
  rw [(consistent_of_reachable reached).size_toNat, counted, uncounted]
  rfl

/-- Both slots are occupied while the consumer reads the first. -/
theorem ring_interleavings_full :
    ∃ state : Spsc Nat,
      (machine twoSlots 0).Reachable (PushesWithin 2) state ∧
      state.Reading ∧
      state.read = [7] ∧
      state.pushed = [7, 8] ∧
      state.ring.size = 2 ∧
      state.ring.pushInto = state.ring.popNext ∧
      (∀ (k : Nat) (value : Nat),
        state.read[k]? = some value → state.pushed[k]? = some value) ∧
      state.ring.size.toNat ≤ 2 := by
  have atStart :
      (machine twoSlots 0).Reachable (PushesWithin 2) (start twoSlots 0) :=
    Machine.Reachable.start
  have wroteFirst :=
    atStart.next (Step.writeSlot 7 rfl) fun _ => by decide
  have published :=
    wroteFirst.next (Step.storeWriteIndex rfl)
      (pushesWithin_other (by decide))
  have counted :=
    published.next (Step.incrementSize rfl)
      (pushesWithin_other (by decide))
  have wroteSecond :=
    counted.next (Step.writeSlot 8 rfl) fun _ => by decide
  have publishedBoth :=
    wroteSecond.next (Step.storeWriteIndex rfl)
      (pushesWithin_other (by decide))
  have countedBoth :=
    publishedBoth.next (Step.incrementSize rfl)
      (pushesWithin_other (by decide))
  have admitted :=
    countedBoth.next (Step.loadSize rfl) (pushesWithin_other (by decide))
  have taken :=
    admitted.next (Step.readSlot 7 (by decide) rfl)
      (pushesWithin_other (by decide))
  obtain ⟨inOrder, _, _, _, _, _, atMost⟩ :=
    ring_interleavings twoSlots 0 _ taken
  exact
    ⟨_, taken, .inr rfl, rfl, rfl, rfl, rfl, inOrder, atMost⟩

end Spsc

end RingBuffer

end LowLatencyBlocks
