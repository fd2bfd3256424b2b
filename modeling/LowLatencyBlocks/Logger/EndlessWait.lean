import LowLatencyBlocks.Library.Progress
import LowLatencyBlocks.Logger.Shutdown

/-!
# A destructor that never returns

An overrun by whole laps of the queue closes it to the logger thread: it finds
the two indices equal, as in an empty queue, while `size()` is not zero.  From
then on `~Logger` waits for ever.
-/

namespace LowLatencyBlocks

open Library

theorem LFQueue.getNextToRead_eq_none
    {T : Type} {queue : LFQueue T} :
    queue.getNextToRead = none ↔
      queue.nextReadIndex = queue.nextWriteIndex := by
  by_cases equal : queue.nextReadIndex = queue.nextWriteIndex
  · simp [getNextToRead, equal]
  · simp [getNextToRead, equal]

namespace Logger

open LFQueue

section Runs

variable {inserters : Inserters} {self : Nat} {capacity : Capacity}
  {elements : List LogElement} {logger before after : Logger}

/-- The owner waits, and the logger thread finds nothing to read. -/
structure Stuck (logger : Logger) : Prop where
  owner : logger.owner = .waiting
  counted : logger.queue.queue.size ≠ 0
  unread :
    logger.queue.queue.nextReadIndex = logger.queue.queue.nextWriteIndex
  running : logger.running = true
  position :
    logger.queue.consumer = .idle ∨ logger.queue.consumer = .fetched none

/-- The logger thread only looks. -/
theorem Stuck.looks
    (stuck : before.Stuck) {queue : Spsc LogElement}
    (step :
      Spsc.Step .pointerThenSize self .consumer before.queue queue) :
    queue.queue = before.queue.queue ∧
      queue.read = before.queue.read ∧
      (queue.consumer = .idle ∨ queue.consumer = .fetched none) := by
  have position := stuck.position
  cases step with
  | check next checked =>
      refine ⟨rfl, rfl, ?_⟩
      have fetchesNone : before.queue.queue.getNextToRead = none :=
        getNextToRead_eq_none.mpr stuck.unread
      rcases position with idle | fetched
      · rw [idle] at checked
        cases checked with
        | fetch _ =>
            exact .inr (congrArg _ fetchesNone)
        | loadSize other =>
            cases other
      · rw [fetched] at checked
        cases checked with
        | refuse _ _ =>
            exact .inl rfl
  | readSlot _ _ stage _ | storeReadIndex stage | assertHolds stage _
  | assertFails _ stage _ | decrementSize stage =>
      rw [stage] at position
      rcases position with idle | fetched
      · cases idle
      · cases fetched

/-- Neither thread can change what keeps them. -/
theorem Stuck.step
    {party : Party} (stuck : before.Stuck)
    (step : Step inserters self party before after) :
    after.Stuck ∧ after.file = before.file := by
  have owner := stuck.owner
  cases step with
  | pushElement _ _ stage _ _ | publish _ stage _ _
  | enterDestructor _ _ stage _ | stop _ stage | join stage _ =>
      rw [stage] at owner
      cases owner
  | waitLonger _ _ _ =>
      exact ⟨stuck, rfl⟩
  | waitOver _ _ empty =>
      exact absurd empty stuck.counted
  | enterLoop _ _ =>
      exact
        ⟨⟨owner, stuck.counted, stuck.unread, stuck.running,
            stuck.position⟩, rfl⟩
  | leaveLoop _ halted =>
      rw [stuck.running] at halted
      cases halted
  | insert element stage queueStep read =>
      obtain ⟨_, sameRead, _⟩ := stuck.looks queueStep
      rw [sameRead] at read
      have nothing := List.append_right_eq_self.mp read.symm
      cases nothing
  | drain _ queueStep _ _ | sleep _ _ _ queueStep _ =>
      obtain ⟨sameQueue, _, position⟩ := stuck.looks queueStep
      refine ⟨⟨owner, ?_, ?_, stuck.running, position⟩, rfl⟩
      · rw [sameQueue]
        exact stuck.counted
      · rw [sameQueue]
        exact stuck.unread

theorem consistent_of_reachable
    (reached :
      (machine inserters self capacity elements).Reachable
        Machine.anyStep logger) :
    logger.queue.Consistent .pointerThenSize capacity := by
  apply
    reached.invariant
      (fun logger => logger.queue.Consistent .pointerThenSize capacity)
      Spsc.consistent_start
  intro party before after consistent step _
  rcases step.on_queue with same | ⟨thread, queueStep⟩
  · rw [same]
    exact consistent
  · exact consistent.step queueStep

/-- What the owner has pushed up to the end of its first wait. -/
def OwnerPushes (elements : List LogElement) (logger : Logger) : Prop :=
  match logger.owner with
  | .pushing left =>
      logger.queue.pushed ++ left = elements ∧ logger.running = true
  | .waiting =>
      logger.queue.pushed = elements ∧ logger.running = true ∧
        ∃ seen, logger.queue.producer = .ready seen
  | .stopping | .joining | .closed => True

/-- What holds in every interleaving, however many elements are unread. -/
structure Written
    (inserters : Inserters) (elements : List LogElement)
    (logger : Logger) : Prop where
  file : logger.file = inserters.elements logger.queue.read
  owner : OwnerPushes elements logger

/-- The logger thread leaves what the owner has pushed alone. -/
theorem OwnerPushes.of_flusher_step
    (pushes : OwnerPushes elements before)
    (step :
      Spsc.Step .pointerThenSize self .consumer before.queue after.queue)
    (sameOwner : after.owner = before.owner)
    (sameRunning : after.running = before.running) :
    OwnerPushes elements after := by
  obtain ⟨samePushed, sameProducer, _⟩ := step.consumer_frame
  unfold OwnerPushes at pushes ⊢
  rw [sameOwner, sameRunning, samePushed, sameProducer]
  exact pushes

theorem Written.step
    {party : Party} (written : before.Written inserters elements)
    (step : Step inserters self party before after) :
    after.Written inserters elements := by
  obtain ⟨file, owner⟩ := written
  cases step with
  | pushElement element left stage queueStep pushed =>
      obtain ⟨sameRead, _⟩ := queueStep.producer_frame
      refine ⟨by rw [sameRead]; exact file, ?_⟩
      simp only [OwnerPushes, stage] at owner ⊢
      rw [pushed, List.append_assoc]
      exact owner
  | publish left stage unready queueStep =>
      obtain ⟨sameRead, samePushed⟩ := queueStep.producer_frame
      refine ⟨by rw [sameRead]; exact file, ?_⟩
      simp only [OwnerPushes, stage] at owner ⊢
      rw [samePushed unready]
      exact owner
  | enterDestructor seen _ stage ready =>
      refine ⟨file, ?_⟩
      simp only [OwnerPushes, stage, List.append_nil] at owner ⊢
      exact ⟨owner.1, owner.2, seen, ready⟩
  | waitLonger _ _ _ | enterLoop _ _ | leaveLoop _ _ =>
      exact ⟨file, owner⟩
  | waitOver _ _ _ | stop _ _ | join _ _ =>
      exact ⟨file, trivial⟩
  | insert element _ queueStep read =>
      refine ⟨?_, owner.of_flusher_step queueStep rfl rfl⟩
      rw [read, inserters.elements_concat, file]
  | drain _ queueStep read _ =>
      exact
        ⟨by rw [read]; exact file, owner.of_flusher_step queueStep rfl rfl⟩
  | sleep next _ fetched queueStep _ =>
      obtain ⟨_, _, _, sameRead⟩ := queueStep.consumer_frame
      exact
        ⟨by rw [sameRead next fetched]; exact file,
          owner.of_flusher_step queueStep rfl rfl⟩

/-- The destructor has been entered, and the logger thread holds no pointer. -/
structure Resting (logger : Logger) : Prop where
  owner : logger.owner = .waiting
  position :
    logger.queue.consumer = .idle ∨ logger.queue.consumer = .fetched none

/-- Whole laps of unread elements stop a logger at rest. -/
theorem Resting.stuck
    (resting : logger.Resting)
    (written : logger.Written inserters elements)
    (consistent : logger.queue.Consistent .pointerThenSize capacity)
    (laps :
      capacity.size ∣ elements.length - logger.queue.read.length)
    (counted :
      ¬ 2 ^ 64 ∣ elements.length - logger.queue.read.length) :
    logger.Stuck := by
  have owner := written.owner
  simp only [OwnerPushes, resting.owner] at owner
  obtain ⟨pushed, running, seen, ready⟩ := owner
  have producer := consistent.producer
  simp only [Spsc.ProducerCounts, ready, pushed] at producer
  have popped :
      logger.queue.released = logger.queue.uncounted ∧
        logger.queue.read.length = logger.queue.released := by
    have consumer := consistent.consumer
    rcases resting.position with idle | fetched
    · simp only [Spsc.ConsumerCounts, idle] at consumer
      exact consumer
    · simp only [Spsc.ConsumerCounts, fetched] at consumer
      exact ⟨consumer.1, consumer.2.1⟩
  refine ⟨resting.owner, ?_, ?_, running, resting.position⟩
  · intro empty
    have turns := consistent.tracks.storeSize_eq_zero_iff.mp empty
    rw [← producer.2, ← producer.1, ← popped.1, ← popped.2] at turns
    exact counted turns
  · rw [producer.1, popped.2] at laps
    have noPointer : logger.queue.queue.getNextToRead = none :=
      (consistent.tracks.getNextToRead_eq_none_iff
        consistent.indexOrder).mpr laps
    exact getNextToRead_eq_none.mp noPointer

theorem Stuck.leads
    (stuck : before.Stuck)
    (run :
      (machine inserters self capacity elements).Leads
        Machine.anyStep before after) :
    after.Stuck ∧ after.file = before.file := by
  apply
    run.invariant
      (fun state => state.Stuck ∧ state.file = before.file) _ ⟨stuck, rfl⟩
  rintro party middle next ⟨stuckMiddle, sameFile⟩ step _
  obtain ⟨stuckNext, keptFile⟩ := stuckMiddle.step step
  exact ⟨stuckNext, keptFile.trans sameFile⟩

/-- A logger whose thread has not begun to read. -/
structure Bursting (left : List LogElement) (logger : Logger) : Prop where
  owner : logger.owner = .pushing left
  ready : logger.queue.producer = .ready none
  idle : logger.queue.consumer = .idle
  read : logger.queue.read = []

theorem Bursting.running
    {left : List LogElement} (bursting : logger.Bursting left) :
    logger.queue.Running := by
  intro fault
  simp [bursting.idle]

end Runs

end Logger

end LowLatencyBlocks
