import LowLatencyBlocks.Library.Machine
import LowLatencyBlocks.LockFreeQueue.Queue

/-!
# One producer and one consumer on the queue

The producer pushes values for ever; the consumer pops for ever.  Every store to
an atomic word, every load that decides something, and every access to a slot is
a step of its own, and the two threads interleave in any order.

Each thread stores to its own index only, so that `getNextToRead()`, which
compares the consumer's own index with the other one, takes effect at its one
load of `next_write_index_` and is one step.

The consumer programs of the repository and of its queue differ only in the
checks before a pop; `Guard` names them.
-/

namespace LowLatencyBlocks

open Library

namespace LFQueue

/-- The checks a consumer makes before it pops. -/
inductive Guard where
  /-- `getNextToRead()`, then `size() && next`, as `Logger::flushQueue`. -/
  | pointerThenSize
  /-- `size()`, then `getNextToRead()`, as `consumeFunction`, and both are
  tested. -/
  | sizeThenPointer
  /-- `getNextToRead()` alone. -/
  | pointerOnly
  deriving DecidableEq, Repr

/-- Where the producer stands. -/
inductive Producer where
  /-- Between two pushes, with the `size()` it loaded since the last one. -/
  | ready (seen : Option SizeT)
  | written
  | published
  deriving DecidableEq, Repr

/-- Where the consumer stands. -/
inductive Consumer where
  | idle
  | fetched (next : Option Nat)
  | sized (size : SizeT)
  | admitted (slot : Nat)
  | taken
  | released
  | checked
  /-- The process has ended in the `ASSERT`. -/
  | exited (fault : Fault)
  deriving DecidableEq, Repr

inductive Thread where
  | producer
  | consumer
  deriving DecidableEq, Repr

/-- The queue, both threads, and the history of the run: the values pushed and
read, and how often each atomic word was stored. -/
structure Spsc (T : Type) where
  queue : LFQueue T
  producer : Producer
  consumer : Consumer
  pushed : List T
  published : Nat
  counted : Nat
  read : List T
  released : Nat
  uncounted : Nat

/-- The checks before a pop. -/
inductive Check {T : Type} (guard : Guard) (queue : LFQueue T) :
    Consumer → Consumer → Prop
  | fetch :
      guard ≠ .sizeThenPointer →
      Check guard queue .idle (.fetched queue.getNextToRead)
  | enter (slot : Nat) :
      guard = .pointerThenSize → queue.size ≠ 0 →
      Check guard queue (.fetched (some slot)) (.admitted slot)
  | follow (slot : Nat) :
      guard = .pointerOnly →
      Check guard queue (.fetched (some slot)) (.admitted slot)
  | refuse (next : Option Nat) :
      (next = none ∨ guard = .pointerThenSize ∧ queue.size = 0) →
      Check guard queue (.fetched next) .idle
  | loadSize :
      guard = .sizeThenPointer →
      Check guard queue .idle (.sized queue.size)
  | fetchSized (size : SizeT) (slot : Nat) :
      size ≠ 0 → queue.getNextToRead = some slot →
      Check guard queue (.sized size) (.admitted slot)
  | refuseSized (size : SizeT) :
      (size = 0 ∨ queue.getNextToRead = none) →
      Check guard queue (.sized size) .idle

theorem Check.not_exited
    {T : Type} {guard : Guard} {queue : LFQueue T}
    {position next : Consumer} (check : Check guard queue position next)
    (fault : Fault) : next ≠ .exited fault := by
  cases check <;> exact nofun

namespace Spsc

variable {T : Type}

/-- No `ASSERT` has ended the process. -/
def Running (state : Spsc T) : Prop :=
  ∀ fault, state.consumer ≠ .exited fault

/-- The steps of the two threads; `self` is the consumer's `pthread_self()`. -/
inductive Step (guard : Guard) (self : Nat) :
    Thread → Spsc T → Spsc T → Prop
  /-- A producer that wants to know the size loads it between its pushes. -/
  | look {state : Spsc T} (seen : Option SizeT) :
      state.Running → state.producer = .ready seen →
      Step guard self .producer state
        { state with producer := .ready (some state.queue.size) }
  | writeSlot {state : Spsc T} (seen : Option SizeT) (value : T) :
      state.Running → state.producer = .ready seen →
      Step guard self .producer state
        { state with
          queue := state.queue.writeSlot state.queue.getNextToWriteTo value
          producer := .written
          pushed := state.pushed ++ [value] }
  | storeWriteIndex {state : Spsc T} :
      state.Running → state.producer = .written →
      Step guard self .producer state
        { state with
          queue := state.queue.storeWriteIndex
          producer := .published
          published := state.published + 1 }
  | incrementSize {state : Spsc T} :
      state.Running → state.producer = .published →
      Step guard self .producer state
        { state with
          queue := state.queue.incrementSize
          producer := .ready none
          counted := state.counted + 1 }
  | check {state : Spsc T} (next : Consumer) :
      Check guard state.queue state.consumer next →
      Step guard self .consumer state { state with consumer := next }
  | readSlot {state : Spsc T} (slot : Nat) (value : T) :
      state.consumer = .admitted slot →
      vectorAt state.queue.store slot = .ok value →
      Step guard self .consumer state
        { state with
          consumer := .taken
          read := state.read ++ [value] }
  | storeReadIndex {state : Spsc T} :
      state.consumer = .taken →
      Step guard self .consumer state
        { state with
          queue := state.queue.storeReadIndex
          consumer := .released
          released := state.released + 1 }
  | assertHolds {state : Spsc T} :
      state.consumer = .released →
      state.queue.assertStoreSize self = .ok () →
      Step guard self .consumer state { state with consumer := .checked }
  | assertFails {state : Spsc T} (fault : Fault) :
      state.consumer = .released →
      state.queue.assertStoreSize self = .error fault →
      Step guard self .consumer state
        { state with consumer := .exited fault }
  | decrementSize {state : Spsc T} :
      state.consumer = .checked →
      Step guard self .consumer state
        { state with
          queue := state.queue.decrementSize
          consumer := .idle
          uncounted := state.uncounted + 1 }

/-- What a step of the producer leaves alone. -/
theorem Step.producer_frame
    {guard : Guard} {self : Nat} {before after : Spsc T}
    (step : Step guard self .producer before after) :
    after.read = before.read ∧
      ((∀ seen, before.producer ≠ .ready seen) →
        after.pushed = before.pushed) := by
  cases step with
  | look _ _ _ | storeWriteIndex _ _ | incrementSize _ _ =>
      exact ⟨rfl, fun _ => rfl⟩
  | writeSlot seen value running ready =>
      exact ⟨rfl, fun unready => absurd ready (unready seen)⟩

/-- What a step of the consumer leaves alone. -/
theorem Step.consumer_frame
    {guard : Guard} {self : Nat} {before after : Spsc T}
    (step : Step guard self .consumer before after) :
    after.pushed = before.pushed ∧
      after.producer = before.producer ∧
      before.read.length ≤ after.read.length ∧
      (∀ next, before.consumer = .fetched next →
        after.read = before.read) := by
  cases step with
  | check _ _ | storeReadIndex _ | assertHolds _ _ | assertFails _ _ _
  | decrementSize _ =>
      exact ⟨rfl, rfl, Nat.le_refl _, fun _ _ => rfl⟩
  | readSlot slot value admitted _ =>
      refine ⟨rfl, rfl, ?_, ?_⟩
      · rw [List.length_append]
        exact Nat.le_add_right _ _
      · intro next fetched
        rw [admitted] at fetched
        cases fetched

/-- Both threads before their first step on a new queue. -/
def start (capacity : Capacity) (default : T) : Spsc T where
  queue := make capacity default
  producer := .ready none
  consumer := .idle
  pushed := []
  published := 0
  counted := 0
  read := []
  released := 0
  uncounted := 0

/-- All interleavings of the two threads. -/
def machine
    (guard : Guard) (self : Nat) (capacity : Capacity) (default : T) :
    Machine (Spsc T) Thread where
  start := start capacity default
  step := Step guard self

/-- At most `bound` elements are unread, counted from the start of the push to
the store to `next_read_index_` past the element. -/
def UnreadAtMost (bound : Nat) (state : Spsc T) : Prop :=
  state.pushed.length ≤ state.released + bound

/-! ## The invariant of all interleavings -/

/-- The producer's stores so far, by its position. -/
def ProducerCounts (state : Spsc T) : Prop :=
  match state.producer with
  | .ready _ =>
      state.pushed.length = state.published ∧
        state.published = state.counted
  | .written =>
      state.pushed.length = state.published + 1 ∧
        state.published = state.counted
  | .published =>
      state.pushed.length = state.published ∧
        state.published = state.counted + 1

/-- The element about to be popped is counted, when the guard loads `size()`. -/
def Counted (guard : Guard) (state : Spsc T) : Prop :=
  guard ≠ .pointerOnly → state.uncounted < state.counted

/-- The consumer's reads and stores so far, by its position. -/
def ConsumerCounts
    (guard : Guard) (capacity : Capacity) (state : Spsc T) : Prop :=
  match state.consumer with
  | .idle =>
      state.released = state.uncounted ∧
        state.read.length = state.released
  | .fetched next =>
      state.released = state.uncounted ∧
        state.read.length = state.released ∧
        ∀ slot, next = some slot →
          slot = state.released % capacity.size ∧
            state.released < state.published
  | .sized size =>
      state.released = state.uncounted ∧
        state.read.length = state.released ∧
        (size ≠ 0 → state.uncounted < state.counted)
  | .admitted slot =>
      state.released = state.uncounted ∧
        state.read.length = state.released ∧
        slot = state.released % capacity.size ∧
        state.released < state.published ∧
        state.Counted guard
  | .taken =>
      state.released = state.uncounted ∧
        state.read.length = state.released + 1 ∧
        state.released < state.published ∧
        state.Counted guard
  | .released =>
      state.released = state.uncounted + 1 ∧
        state.read.length = state.released ∧
        state.Counted guard
  | .checked =>
      state.released = state.uncounted + 1 ∧
        state.read.length = state.released ∧
        state.uncounted < state.counted
  | .exited _ =>
      state.released = state.uncounted + 1 ∧
        state.read.length = state.released ∧
        state.Counted guard ∧
        2 ^ 64 ∣ state.counted - state.uncounted

/-- What holds in every state of every interleaving. -/
structure Consistent
    (guard : Guard) (capacity : Capacity) (state : Spsc T) : Prop where
  tracks :
    Tracks capacity state.queue state.pushed state.pushed.length
      state.published state.released (state.counted - state.uncounted)
  countOrder : state.uncounted ≤ state.counted
  indexOrder : state.released ≤ state.published
  producer : state.ProducerCounts
  consumer : state.ConsumerCounts guard capacity

section Preservation

variable {guard : Guard} {self : Nat} {capacity : Capacity} {default : T}

theorem consistent_start :
    (start capacity default).Consistent guard capacity where
  tracks := tracks_make capacity default
  countOrder := Nat.le_refl 0
  indexOrder := Nat.le_refl 0
  producer := ⟨rfl, rfl⟩
  consumer := ⟨rfl, rfl⟩

/-- The consumer's position is not disturbed by the producer's stores. -/
private theorem ConsumerCounts.of_producer_step
    {before after : Spsc T}
    (counts : before.ConsumerCounts guard capacity)
    (running : before.Running)
    (sameConsumer : after.consumer = before.consumer)
    (sameRead : after.read = before.read)
    (sameReleased : after.released = before.released)
    (sameUncounted : after.uncounted = before.uncounted)
    (published : before.published ≤ after.published)
    (counted : before.counted ≤ after.counted) :
    after.ConsumerCounts guard capacity := by
  unfold ConsumerCounts Counted at counts ⊢
  rw [sameConsumer, sameRead, sameReleased, sameUncounted]
  cases stage : before.consumer with
  | idle =>
      simpa only [stage] using counts
  | fetched next =>
      simp only [stage] at counts ⊢
      obtain ⟨popped, taken, pointer⟩ := counts
      refine ⟨popped, taken, ?_⟩
      intro slot fetched
      obtain ⟨place, waiting⟩ := pointer slot fetched
      exact ⟨place, by omega⟩
  | sized size =>
      simp only [stage] at counts ⊢
      obtain ⟨popped, taken, nonzero⟩ := counts
      refine ⟨popped, taken, ?_⟩
      intro passed
      have := nonzero passed
      omega
  | admitted slot =>
      simp only [stage] at counts ⊢
      obtain ⟨popped, taken, place, waiting, inSize⟩ := counts
      refine ⟨popped, taken, place, by omega, ?_⟩
      intro checksSize
      have := inSize checksSize
      omega
  | taken =>
      simp only [stage] at counts ⊢
      obtain ⟨popped, taken, waiting, inSize⟩ := counts
      refine ⟨popped, taken, by omega, ?_⟩
      intro checksSize
      have := inSize checksSize
      omega
  | released =>
      simp only [stage] at counts ⊢
      obtain ⟨popped, taken, inSize⟩ := counts
      refine ⟨popped, taken, ?_⟩
      intro checksSize
      have := inSize checksSize
      omega
  | checked =>
      simp only [stage] at counts ⊢
      obtain ⟨popped, taken, inSize⟩ := counts
      exact ⟨popped, taken, by omega⟩
  | exited fault =>
      exact absurd stage (running fault)

private theorem counted_of_size_ne_zero
    {state : Spsc T} (consistent : state.Consistent guard capacity)
    (nonzero : state.queue.size ≠ 0) :
    state.uncounted < state.counted :=
  Nat.lt_of_sub_pos
    (consistent.tracks.count_pos_of_storeSize_ne_zero nonzero)

/-- The checks only move the consumer, and what they let through is there. -/
private theorem consumerCounts_of_check
    {state : Spsc T} {next : Consumer}
    (consistent : state.Consistent guard capacity)
    (check : Check guard state.queue state.consumer next) :
    { state with consumer := next }.ConsumerCounts guard capacity := by
  have counts := consistent.consumer
  have pointer :
      ∀ slot, state.queue.getNextToRead = some slot →
        slot = state.released % capacity.size ∧
          state.released < state.published := by
    intro slot fetched
    obtain ⟨place, laps⟩ :=
      (consistent.tracks.getNextToRead_eq_some_iff
        consistent.indexOrder).mp fetched
    have order := consistent.indexOrder
    refine ⟨place, ?_⟩
    by_contra caughtUp
    have none : state.published - state.released = 0 := by omega
    exact laps (by simp [none])
  have inSize := counted_of_size_ne_zero consistent
  unfold ConsumerCounts at counts ⊢
  generalize state.consumer = position at check counts
  cases check with
  | fetch _ =>
      exact ⟨counts.1, counts.2, pointer⟩
  | enter slot _ nonzero =>
      obtain ⟨popped, taken, fetched⟩ := counts
      obtain ⟨place, waiting⟩ := fetched slot rfl
      exact ⟨popped, taken, place, waiting, fun _ => inSize nonzero⟩
  | follow slot only =>
      obtain ⟨popped, taken, fetched⟩ := counts
      obtain ⟨place, waiting⟩ := fetched slot rfl
      exact
        ⟨popped, taken, place, waiting,
          fun checksSize => absurd only checksSize⟩
  | refuse next _ =>
      exact ⟨counts.1, counts.2.1⟩
  | loadSize _ =>
      exact ⟨counts.1, counts.2, inSize⟩
  | fetchSized size slot nonzero fetched =>
      obtain ⟨popped, taken, loaded⟩ := counts
      obtain ⟨place, waiting⟩ := pointer slot fetched
      exact
        ⟨popped, taken, place, waiting, fun _ => loaded nonzero⟩
  | refuseSized size _ =>
      exact ⟨counts.1, counts.2.1⟩

/-- One step lemma for every step of either thread. -/
theorem Consistent.step
    {thread : Thread} {before after : Spsc T}
    (consistent : before.Consistent guard capacity)
    (step : Step guard self thread before after) :
    after.Consistent guard capacity := by
  have tracks := consistent.tracks
  have countOrder := consistent.countOrder
  have indexOrder := consistent.indexOrder
  have producer := consistent.producer
  have consumer := consistent.consumer
  cases step with
  | look seen running stage =>
      simp only [ProducerCounts, stage] at producer
      exact
        { tracks := tracks
          countOrder := countOrder
          indexOrder := indexOrder
          producer := producer
          consumer :=
            consumer.of_producer_step running rfl rfl rfl rfl
              (Nat.le_refl _) (Nat.le_refl _) }
  | writeSlot seen value running stage =>
      simp only [ProducerCounts, stage] at producer
      obtain ⟨begun, counted⟩ := producer
      rw [← begun] at tracks
      have written := tracks.writeSlot value
      rw [begun] at written
      exact
        { tracks := by
            simpa only [List.length_append, List.length_singleton, begun]
              using written
          countOrder := countOrder
          indexOrder := indexOrder
          producer := by
            simp only [ProducerCounts, List.length_append,
              List.length_singleton]
            exact ⟨by omega, counted⟩
          consumer :=
            consumer.of_producer_step running rfl rfl rfl rfl
              (Nat.le_refl _) (Nat.le_refl _) }
  | storeWriteIndex running stage =>
      simp only [ProducerCounts, stage] at producer
      obtain ⟨begun, counted⟩ := producer
      exact
        { tracks := tracks.storeWriteIndex
          countOrder := countOrder
          indexOrder := Nat.le_succ_of_le indexOrder
          producer := by
            simp only [ProducerCounts]
            exact ⟨begun, by omega⟩
          consumer :=
            consumer.of_producer_step running rfl rfl rfl rfl
              (Nat.le_succ _) (Nat.le_refl _) }
  | incrementSize running stage =>
      simp only [ProducerCounts, stage] at producer
      obtain ⟨begun, counted⟩ := producer
      have incremented := tracks.incrementSize
      rw [← Nat.sub_add_comm countOrder] at incremented
      exact
        { tracks := incremented
          countOrder := Nat.le_succ_of_le countOrder
          indexOrder := indexOrder
          producer := ⟨begun, counted⟩
          consumer :=
            consumer.of_producer_step running rfl rfl rfl rfl
              (Nat.le_refl _) (Nat.le_succ _) }
  | check next checked =>
      exact
        { tracks := tracks
          countOrder := countOrder
          indexOrder := indexOrder
          producer := producer
          consumer := consumerCounts_of_check consistent checked }
  | readSlot slot value stage _ =>
      simp only [ConsumerCounts, stage] at consumer
      obtain ⟨popped, taken, _, waiting, inSize⟩ := consumer
      exact
        { tracks := tracks
          countOrder := countOrder
          indexOrder := indexOrder
          producer := producer
          consumer := by
            simp only [ConsumerCounts, List.length_append,
              List.length_singleton]
            exact ⟨popped, by omega, waiting, inSize⟩ }
  | storeReadIndex stage =>
      simp only [ConsumerCounts, stage] at consumer
      obtain ⟨popped, taken, waiting, inSize⟩ := consumer
      exact
        { tracks := tracks.storeReadIndex
          countOrder := countOrder
          indexOrder := waiting
          producer := producer
          consumer := by
            simp only [ConsumerCounts]
            exact ⟨by omega, taken, inSize⟩ }
  | assertHolds stage holds =>
      simp only [ConsumerCounts, stage] at consumer
      obtain ⟨popped, taken, _⟩ := consumer
      have nonzero : before.queue.size ≠ 0 :=
        (assertStoreSize_eq_ok_iff _ _).mp holds
      have counted : before.uncounted < before.counted :=
        counted_of_size_ne_zero consistent nonzero
      exact
        { tracks := tracks
          countOrder := countOrder
          indexOrder := indexOrder
          producer := producer
          consumer := ⟨popped, taken, counted⟩ }
  | assertFails fault stage fails =>
      simp only [ConsumerCounts, stage] at consumer
      obtain ⟨popped, taken, inSize⟩ := consumer
      have zero := storeSize_eq_zero_of_assert fails
      exact
        { tracks := tracks
          countOrder := countOrder
          indexOrder := indexOrder
          producer := producer
          consumer :=
            ⟨popped, taken, inSize,
              tracks.storeSize_eq_zero_iff.mp zero⟩ }
  | decrementSize stage =>
      simp only [ConsumerCounts, stage] at consumer
      obtain ⟨popped, taken, counted⟩ := consumer
      have decremented := tracks.decrementSize (by omega)
      rw [Nat.sub_sub] at decremented
      exact
        { tracks := decremented
          countOrder := counted
          indexOrder := indexOrder
          producer := producer
          consumer := ⟨popped, taken⟩ }

theorem consistent_of_reachable
    {allowed : Thread → Spsc T → Spsc T → Prop} {state : Spsc T}
    (reached :
      (machine guard self capacity default).Reachable allowed state) :
    state.Consistent guard capacity :=
  reached.invariant _ consistent_start
    fun consistent step _ => consistent.step step

theorem bounded_of_reachable
    {bound : Nat} {state : Spsc T}
    (reached :
      (machine guard self capacity default).Reachable
        (Machine.staying (UnreadAtMost bound)) state) :
    state.UnreadAtMost bound := by
  have initial : (start capacity default).UnreadAtMost bound :=
    Nat.zero_le _
  exact reached.within initial

end Preservation

end Spsc

end LFQueue

end LowLatencyBlocks
