import LowLatencyBlocks.LockFreeQueue.Delivery
import LowLatencyBlocks.Logger.LogElement

/-!
# Closing the logger

One thread pushes its elements and then runs `~Logger`; the logger thread runs
`flushQueue()`.  The steps of the two are those of the producer and of the
consumer on the queue, and beside them the loads and the store of `running_`,
the destructor's loads of `size()` and its `join()`.

So every run of the logger is, on its queue, a run of the two threads of the
queue, and what is known of those runs carries over.
-/

namespace LowLatencyBlocks

open Library

/-- Where the thread that owns the logger stands. -/
inductive Owner where
  /-- In or before `pushValue` of the first of the elements left. -/
  | pushing (left : List LogElement)
  /-- In `while(queue_.size())` of `~Logger`. -/
  | waiting
  /-- Before `running_ = false`. -/
  | stopping
  /-- In `logger_thread_->join()`. -/
  | joining
  | closed

/-- Where `flushQueue()` stands. -/
inductive Flusher where
  /-- Before the load of `running_`. -/
  | testing
  /-- In the inner loop, at the consumer's position on the queue. -/
  | draining
  | returned
  deriving DecidableEq, Repr

inductive Party where
  | owner
  | flusher
  deriving DecidableEq, Repr

/-- `Logger`, with the positions of its two threads. -/
structure Logger where
  queue : LFQueue.Spsc LogElement
  running : Bool
  file : List UInt8
  owner : Owner
  flusher : Flusher

namespace Logger

open LFQueue

/-- The steps of both threads; `self` is `pthread_self()` of the logger
thread. -/
inductive Step (inserters : Inserters) (self : Nat) :
    Party → Logger → Logger → Prop
  /-- `*(queue_.getNextToWriteTo()) = log_element`. -/
  | pushElement
      {logger : Logger} {queue : Spsc LogElement}
      (element : LogElement) (left : List LogElement) :
      logger.owner = .pushing (element :: left) →
      Spsc.Step .pointerThenSize self .producer logger.queue queue →
      queue.pushed = logger.queue.pushed ++ [element] →
      Step inserters self .owner logger
        { logger with queue := queue, owner := .pushing left }
  /-- The two stores of `updateNextToWriteTo()`. -/
  | publish
      {logger : Logger} {queue : Spsc LogElement}
      (left : List LogElement) :
      logger.owner = .pushing left →
      (∀ seen, logger.queue.producer ≠ .ready seen) →
      Spsc.Step .pointerThenSize self .producer logger.queue queue →
      Step inserters self .owner logger { logger with queue := queue }
  | enterDestructor {logger : Logger} (seen : Option SizeT) :
      logger.queue.Running → logger.owner = .pushing [] →
      logger.queue.producer = .ready seen →
      Step inserters self .owner logger { logger with owner := .waiting }
  /-- `size()` is not zero: sleep and load it again. -/
  | waitLonger {logger : Logger} :
      logger.queue.Running → logger.owner = .waiting →
      logger.queue.queue.size ≠ 0 →
      Step inserters self .owner logger logger
  | waitOver {logger : Logger} :
      logger.queue.Running → logger.owner = .waiting →
      logger.queue.queue.size = 0 →
      Step inserters self .owner logger { logger with owner := .stopping }
  | stop {logger : Logger} :
      logger.queue.Running → logger.owner = .stopping →
      Step inserters self .owner logger
        { logger with running := false, owner := .joining }
  | join {logger : Logger} :
      logger.owner = .joining → logger.flusher = .returned →
      Step inserters self .owner logger { logger with owner := .closed }
  | enterLoop {logger : Logger} :
      logger.flusher = .testing → logger.running = true →
      Step inserters self .flusher logger
        { logger with flusher := .draining }
  | leaveLoop {logger : Logger} :
      logger.flusher = .testing → logger.running = false →
      Step inserters self .flusher logger
        { logger with flusher := .returned }
  /-- `file_ << next->u_...`. -/
  | insert
      {logger : Logger} {queue : Spsc LogElement} (element : LogElement) :
      logger.flusher = .draining →
      Spsc.Step .pointerThenSize self .consumer logger.queue queue →
      queue.read = logger.queue.read ++ [element] →
      Step inserters self .flusher logger
        { logger with
          queue := queue
          file := logger.file ++ inserters.element element }
  /-- A step of the inner loop that stays in it. -/
  | drain
      {logger : Logger} {queue : Spsc LogElement} :
      logger.flusher = .draining →
      Spsc.Step .pointerThenSize self .consumer logger.queue queue →
      queue.read = logger.queue.read →
      ((∀ next, logger.queue.consumer ≠ .fetched next) ∨
        queue.consumer ≠ .idle) →
      Step inserters self .flusher logger { logger with queue := queue }
  /-- The condition of the inner loop fails; `flush()` and sleep. -/
  | sleep
      {logger : Logger} {queue : Spsc LogElement} (next : Option Nat) :
      logger.flusher = .draining →
      logger.queue.consumer = .fetched next →
      Spsc.Step .pointerThenSize self .consumer logger.queue queue →
      queue.consumer = .idle →
      Step inserters self .flusher logger
        { logger with queue := queue, flusher := .testing }

/-- A new logger, whose owner will push the elements and destroy it. -/
def start (capacity : Capacity) (elements : List LogElement) : Logger where
  queue := Spsc.start capacity LogElement.default
  running := true
  file := []
  owner := .pushing elements
  flusher := .testing

def machine
    (inserters : Inserters) (self : Nat) (capacity : Capacity)
    (elements : List LogElement) : Machine Logger Party where
  start := start capacity elements
  step := Step inserters self

/-- At most `bound` elements are unread. -/
def UnreadAtMost (bound : Nat) (logger : Logger) : Prop :=
  logger.queue.UnreadAtMost bound

section Runs

variable {inserters : Inserters} {self : Nat} {capacity : Capacity}
  {elements : List LogElement}

/-- On the queue, a step of the logger is a step of a thread of the queue, or
none. -/
theorem Step.on_queue
    {party : Party} {before after : Logger}
    (step : Step inserters self party before after) :
    after.queue = before.queue ∨
      ∃ thread,
        Spsc.Step .pointerThenSize self thread before.queue after.queue := by
  cases step with
  | pushElement _ _ _ step _ | publish _ _ _ step =>
      exact .inr ⟨.producer, step⟩
  | insert _ _ step _ | drain _ step _ _ | sleep _ _ _ step _ =>
      exact .inr ⟨.consumer, step⟩
  | enterDestructor _ _ _ _ | waitLonger _ _ _ | waitOver _ _ _
  | stop _ _ | join _ _ | enterLoop _ _ | leaveLoop _ _ =>
      exact .inl rfl

theorem queue_reachable
    {logger : Logger}
    (reached :
      (machine inserters self capacity elements).Reachable
        (Machine.staying (UnreadAtMost (capacity.size - 1))) logger) :
    (Spsc.machine .pointerThenSize self capacity
        LogElement.default).Reachable
      (Machine.staying (Spsc.UnreadAtMost (capacity.size - 1)))
      logger.queue := by
  refine reached.invariant
    (fun logger =>
      (Spsc.machine .pointerThenSize self capacity
          LogElement.default).Reachable
        (Machine.staying (Spsc.UnreadAtMost (capacity.size - 1)))
        logger.queue) Machine.Reachable.start ?_
  intro party before after queueReached step bounded
  rcases step.on_queue with same | ⟨thread, queueStep⟩
  · rw [same]
    exact queueReached
  · exact queueReached.next queueStep bounded

/-! ## The invariant of a closing logger -/

/-- What the owner has pushed so far, by its position. -/
def OwnerCounts (elements : List LogElement) (logger : Logger) : Prop :=
  match logger.owner with
  | .pushing left => logger.queue.pushed ++ left = elements
  | .waiting =>
      logger.queue.pushed = elements ∧
        ∃ seen, logger.queue.producer = .ready seen
  | .stopping | .joining | .closed =>
      logger.queue.pushed = elements ∧
        logger.queue.read.length = logger.queue.pushed.length

structure Kept
    (inserters : Inserters) (elements : List LogElement)
    (logger : Logger) : Prop where
  file : logger.file = inserters.elements logger.queue.read
  owner : OwnerCounts elements logger
  running :
    logger.running = false →
      logger.owner = .joining ∨ logger.owner = .closed
  returned : logger.flusher = .returned → logger.running = false

theorem kept_start :
    (start capacity elements).Kept inserters elements where
  file := rfl
  owner := List.nil_append elements
  running := nofun
  returned := nofun

/-- When the owner finds the size zero, every element has been read. -/
theorem all_read_of_size_eq_zero
    {queue : Spsc LogElement}
    (consistent : queue.Consistent .pointerThenSize capacity)
    (bounded : queue.UnreadAtMost (capacity.size - 1))
    {seen : Option SizeT} (ready : queue.producer = .ready seen)
    (empty : queue.queue.size = 0) :
    queue.read.length = queue.pushed.length := by
  have producer := consistent.producer
  simp only [Spsc.ProducerCounts, ready] at producer
  have consumer := consistent.consumer_bounds
  have turns : 2 ^ 64 ∣ queue.counted - queue.uncounted :=
    consistent.tracks.storeSize_eq_zero_iff.mp empty
  have none : queue.counted - queue.uncounted = 0 :=
    Nat.eq_zero_of_dvd_of_lt turns (consistent.count_small bounded)
  omega

/-- The owner's position is not disturbed by the logger thread, which reads no
more than was pushed. -/
theorem OwnerCounts.of_flusher_step
    {before after : Logger}
    (counts : OwnerCounts elements before)
    (step :
      Spsc.Step .pointerThenSize self .consumer before.queue after.queue)
    (consistent : after.queue.Consistent .pointerThenSize capacity)
    (sameOwner : after.owner = before.owner) :
    OwnerCounts elements after := by
  obtain ⟨samePushed, sameProducer, moreRead, _⟩ := step.consumer_frame
  have readBound := consistent.read_le_pushed
  unfold OwnerCounts at counts ⊢
  rw [sameOwner]
  cases stage : before.owner with
  | pushing left =>
      simp only [stage] at counts ⊢
      rw [samePushed]
      exact counts
  | waiting =>
      simp only [stage] at counts ⊢
      rw [samePushed, sameProducer]
      exact counts
  | stopping | joining | closed =>
      simp only [stage] at counts ⊢
      obtain ⟨pushed, read⟩ := counts
      rw [samePushed] at readBound ⊢
      exact ⟨pushed, by omega⟩

/-- Before `running_ = false` the flag is still set. -/
theorem Kept.still_running
    {logger : Logger} (kept : logger.Kept inserters elements)
    (notJoining : logger.owner ≠ .joining)
    (notClosed : logger.owner ≠ .closed) :
    logger.running ≠ false := by
  intro halted
  rcases kept.running halted with joining | closed
  · exact notJoining joining
  · exact notClosed closed

theorem Kept.step
    {party : Party} {before after : Logger}
    (kept : before.Kept inserters elements)
    (step : Step inserters self party before after)
    (consistent : before.queue.Consistent .pointerThenSize capacity)
    (bounded : before.UnreadAtMost (capacity.size - 1)) :
    after.Kept inserters elements := by
  have owner := kept.owner
  cases step with
  | pushElement element left stage queueStep pushed =>
      obtain ⟨sameRead, _⟩ := queueStep.producer_frame
      have running :=
        kept.still_running (by simp [stage]) (by simp [stage])
      exact
        { file := by rw [sameRead]; exact kept.file
          owner := by
            simp only [OwnerCounts, stage] at owner ⊢
            rw [pushed, List.append_assoc]
            exact owner
          running := fun halted => absurd halted running
          returned := kept.returned }
  | publish left stage unready queueStep =>
      obtain ⟨sameRead, samePushed⟩ := queueStep.producer_frame
      exact
        { file := by rw [sameRead]; exact kept.file
          owner := by
            simp only [OwnerCounts, stage] at owner ⊢
            rw [samePushed unready]
            exact owner
          running := kept.running
          returned := kept.returned }
  | enterDestructor seen _ stage ready =>
      have running :=
        kept.still_running (by simp [stage]) (by simp [stage])
      exact
        { file := kept.file
          owner := by
            simp only [OwnerCounts, stage, List.append_nil] at owner ⊢
            exact ⟨owner, seen, ready⟩
          running := fun halted => absurd halted running
          returned := kept.returned }
  | waitLonger _ _ _ =>
      exact kept
  | waitOver _ stage empty =>
      have running :=
        kept.still_running (by simp [stage]) (by simp [stage])
      exact
        { file := kept.file
          owner := by
            simp only [OwnerCounts, stage] at owner ⊢
            obtain ⟨pushed, seen, ready⟩ := owner
            exact
              ⟨pushed,
                all_read_of_size_eq_zero consistent bounded ready empty⟩
          running := fun halted => absurd halted running
          returned := kept.returned }
  | stop _ stage =>
      exact
        { file := kept.file
          owner := by
            simp only [OwnerCounts, stage] at owner ⊢
            exact owner
          running := fun _ => .inl rfl
          returned := fun _ => rfl }
  | join stage _ =>
      exact
        { file := kept.file
          owner := by
            simp only [OwnerCounts, stage] at owner ⊢
            exact owner
          running := fun _ => .inr rfl
          returned := kept.returned }
  | enterLoop _ _ =>
      exact
        { file := kept.file
          owner := owner
          running := kept.running
          returned := nofun }
  | leaveLoop _ halted =>
      exact
        { file := kept.file
          owner := owner
          running := kept.running
          returned := fun _ => halted }
  | insert element stage queueStep read =>
      exact
        { file := by
            rw [read, inserters.elements_concat, kept.file]
          owner :=
            owner.of_flusher_step queueStep
              (consistent.step queueStep) rfl
          running := kept.running
          returned := kept.returned }
  | drain stage queueStep read _ =>
      exact
        { file := by rw [read]; exact kept.file
          owner :=
            owner.of_flusher_step queueStep
              (consistent.step queueStep) rfl
          running := kept.running
          returned := kept.returned }
  | sleep next _ fetched queueStep _ =>
      obtain ⟨_, _, _, sameRead⟩ := queueStep.consumer_frame
      exact
        { file := by rw [sameRead next fetched]; exact kept.file
          owner :=
            owner.of_flusher_step queueStep
              (consistent.step queueStep) rfl
          running := kept.running
          returned := nofun }

theorem kept_of_reachable
    {logger : Logger}
    (reached :
      (machine inserters self capacity elements).Reachable
        (Machine.staying (UnreadAtMost (capacity.size - 1))) logger) :
    logger.Kept inserters elements := by
  apply reached.strong_invariant (Kept inserters elements) kept_start
  intro party before after reachedBefore kept step _
  have onQueue := queue_reachable reachedBefore
  exact
    kept.step step (Spsc.consistent_of_reachable onQueue)
      (Spsc.bounded_of_reachable onQueue)

/-- When `flushQueue()` has returned, the file holds every element pushed, in
order and once. -/
theorem shutdown_loses_nothing
    (inserters : Inserters) (self : Nat) (capacity : Capacity)
    (elements : List LogElement) (logger : Logger)
    (reached :
      (machine inserters self capacity elements).Reachable
        (Machine.staying (UnreadAtMost (capacity.size - 1))) logger)
    (returned : logger.flusher = .returned) :
    logger.file = inserters.elements elements := by
  have kept := kept_of_reachable reached
  have halted := kept.running (kept.returned returned)
  have everything :
      logger.queue.pushed = elements ∧
        logger.queue.read.length = logger.queue.pushed.length := by
    have owner := kept.owner
    rw [OwnerCounts] at owner
    rcases halted with stage | stage
    · simpa only [stage] using owner
    · simpa only [stage] using owner
  have inOrder : logger.queue.read <+: logger.queue.pushed :=
    Spsc.read_prefix_pushed (queue_reachable reached)
  obtain ⟨pushed, allRead⟩ := everything
  rw [kept.file, inOrder.eq_of_length allRead, pushed]

end Runs

/-- Inserters of the sample run, which writes a character only. -/
def sampleInserters : Inserters where
  char c := [c]
  int i := (toString i).toUTF8.toList
  long li := (toString li).toUTF8.toList
  longLong lli := (toString lli).toUTF8.toList
  unsigned u := (toString u).toUTF8.toList
  unsignedLong ul := (toString ul).toUTF8.toList
  unsignedLongLong ull := (toString ull).toUTF8.toList
  float f := (toString f).toUTF8.toList
  double d := (toString d).toUTF8.toList

/-- Two elements, between which both indices wrap.  The logger thread sleeps once
while the first one is being pushed, and the owner waits once for the size to
become zero. -/
theorem shutdown_loses_nothing_sample :
    ∃ logger : Logger,
      (machine sampleInserters 0 twoSlots [.char 65, .char 66]).Reachable
        (Machine.staying (UnreadAtMost (twoSlots.size - 1))) logger ∧
      logger.flusher = .returned ∧
      logger.file = [65, 66] := by
  have atStart :
      (machine sampleInserters 0 twoSlots [.char 65, .char 66]).Reachable
        (Machine.staying (UnreadAtMost (twoSlots.size - 1)))
        (start twoSlots [.char 65, .char 66]) :=
    Machine.Reachable.start
  have entered := atStart.next (Step.enterLoop rfl rfl) (Nat.le_succ 0)
  -- the first element
  have pushed :=
    entered.next
      (Step.pushElement (.char 65) [.char 66] rfl
        (Spsc.Step.writeSlot none _ nofun rfl) rfl)
      (Nat.le_refl 1)
  have missed :=
    pushed.next
      (Step.drain rfl (Spsc.Step.check _ (Check.fetch nofun)) rfl
        (.inr nofun))
      (Nat.le_refl 1)
  have published :=
    missed.next
      (Step.publish [.char 66] rfl nofun
        (Spsc.Step.storeWriteIndex nofun rfl))
      (Nat.le_refl 1)
  have slept :=
    published.next
      (Step.sleep none rfl rfl
        (Spsc.Step.check _ (Check.refuse none (.inl rfl))) rfl)
      (Nat.le_refl 1)
  have counted :=
    slept.next
      (Step.publish [.char 66] rfl nofun
        (Spsc.Step.incrementSize nofun rfl))
      (Nat.le_refl 1)
  have enteredAgain :=
    counted.next (Step.enterLoop rfl rfl) (Nat.le_refl 1)
  have fetched :=
    enteredAgain.next
      (Step.drain rfl (Spsc.Step.check _ (Check.fetch nofun)) rfl
        (.inr nofun))
      (Nat.le_refl 1)
  have admitted :=
    fetched.next
      (Step.drain rfl
        (Spsc.Step.check _ (Check.enter 0 rfl (by decide))) rfl
        (.inr nofun))
      (Nat.le_refl 1)
  have inserted :=
    admitted.next
      (Step.insert (.char 65) rfl (Spsc.Step.readSlot 0 _ rfl rfl) rfl)
      (Nat.le_refl 1)
  have released :=
    inserted.next
      (Step.drain rfl (Spsc.Step.storeReadIndex rfl) rfl (.inr nofun))
      (Nat.le_succ 1)
  have asserted :=
    released.next
      (Step.drain rfl (Spsc.Step.assertHolds rfl rfl) rfl (.inr nofun))
      (Nat.le_succ 1)
  have decremented :=
    asserted.next
      (Step.drain rfl (Spsc.Step.decrementSize rfl) rfl (.inl nofun))
      (Nat.le_succ 1)
  -- the second one, behind which the indices are zero again
  have pushedNext :=
    decremented.next
      (Step.pushElement (.char 66) [] rfl
        (Spsc.Step.writeSlot none _ nofun rfl) rfl)
      (Nat.le_refl 2)
  have publishedNext :=
    pushedNext.next
      (Step.publish [] rfl nofun (Spsc.Step.storeWriteIndex nofun rfl))
      (Nat.le_refl 2)
  have countedNext :=
    publishedNext.next
      (Step.publish [] rfl nofun (Spsc.Step.incrementSize nofun rfl))
      (Nat.le_refl 2)
  have destroying :=
    countedNext.next (Step.enterDestructor none nofun rfl rfl)
      (Nat.le_refl 2)
  have fetchedNext :=
    destroying.next
      (Step.drain rfl (Spsc.Step.check _ (Check.fetch nofun)) rfl
        (.inr nofun))
      (Nat.le_refl 2)
  have waited :=
    fetchedNext.next (Step.waitLonger nofun rfl (by decide))
      (Nat.le_refl 2)
  have admittedNext :=
    waited.next
      (Step.drain rfl
        (Spsc.Step.check _ (Check.enter 1 rfl (by decide))) rfl
        (.inr nofun))
      (Nat.le_refl 2)
  have insertedNext :=
    admittedNext.next
      (Step.insert (.char 66) rfl (Spsc.Step.readSlot 1 _ rfl rfl) rfl)
      (Nat.le_refl 2)
  have releasedNext :=
    insertedNext.next
      (Step.drain rfl (Spsc.Step.storeReadIndex rfl) rfl (.inr nofun))
      (Nat.le_succ 2)
  have assertedNext :=
    releasedNext.next
      (Step.drain rfl (Spsc.Step.assertHolds rfl rfl) rfl (.inr nofun))
      (Nat.le_succ 2)
  have decrementedNext :=
    assertedNext.next
      (Step.drain rfl (Spsc.Step.decrementSize rfl) rfl (.inl nofun))
      (Nat.le_succ 2)
  -- the destructor
  have empty :=
    decrementedNext.next (Step.waitOver nofun rfl (by decide))
      (Nat.le_succ 2)
  have stopped := empty.next (Step.stop nofun rfl) (Nat.le_succ 2)
  have fetchedNull :=
    stopped.next
      (Step.drain rfl (Spsc.Step.check _ (Check.fetch nofun)) rfl
        (.inr nofun))
      (Nat.le_succ 2)
  have left :=
    fetchedNull.next
      (Step.sleep none rfl rfl
        (Spsc.Step.check _ (Check.refuse none (.inl rfl))) rfl)
      (Nat.le_succ 2)
  have returned := left.next (Step.leaveLoop rfl rfl) (Nat.le_succ 2)
  exact
    ⟨_, returned, rfl,
      shutdown_loses_nothing sampleInserters 0 twoSlots
        [.char 65, .char 66] _ returned rfl⟩

end Logger

end LowLatencyBlocks
