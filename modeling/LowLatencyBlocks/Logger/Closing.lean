import LowLatencyBlocks.Library.Progress
import LowLatencyBlocks.Logger.Shutdown

/-!
# Whether the logger can be closed

`~Logger` waits until `size()` is zero and then for the logger thread.  While
one slot of the queue stays unused, the two threads can always be brought to the
end of both waits: a rank counts the steps that are left to them.
-/

namespace LowLatencyBlocks

open Library

namespace LFQueue

namespace Spsc

variable {T : Type} {self : Nat} {capacity : Capacity}
  {before after : Spsc T}

/-- What the consumer of `flushQueue` does to the counts and positions. -/
theorem Step.flusher_counts
    (step : Step .pointerThenSize self .consumer before after)
    (consistent : before.Consistent .pointerThenSize capacity) :
    after.counted = before.counted ∧
      (before.counted = before.uncounted →
        after.uncounted = before.uncounted) ∧
      ((∀ size, before.consumer ≠ .sized size) →
        ∀ size, after.consumer ≠ .sized size) := by
  have consumer := consistent.consumer
  cases step with
  | check next checked =>
      refine ⟨rfl, fun _ => rfl, ?_⟩
      intro unsized size sized
      generalize before.consumer = position at checked unsized
      change next = .sized size at sized
      rw [sized] at checked
      cases checked with
      | loadSize other =>
          cases other
  | readSlot _ _ _ _ | storeReadIndex _ | assertHolds _ _
  | assertFails _ _ _ =>
      exact ⟨rfl, fun _ => rfl, by simp⟩
  | decrementSize stage =>
      simp only [ConsumerCounts, stage] at consumer
      obtain ⟨_, _, counted⟩ := consumer
      refine ⟨rfl, ?_, by simp⟩
      intro same
      omega

/-- What a push does to the counts and positions. -/
theorem Step.pusher_counts
    (step : Step .pointerThenSize self .producer before after) :
    after.consumer = before.consumer ∧ after.uncounted = before.uncounted := by
  cases step with
  | look _ _ _ | writeSlot _ _ _ _ | storeWriteIndex _ _
  | incrementSize _ _ =>
      exact ⟨rfl, rfl⟩

end Spsc

end LFQueue

/-- How far the owner is from the end of `~Logger`; a push is worth more than
everything that the logger thread does for it. -/
def Owner.stage : Owner → Nat
  | .pushing left => 50 * left.length + 4
  | .waiting => 3
  | .stopping => 2
  | .joining => 1
  | .closed => 0

namespace Logger

open LFQueue

/-- The positions of the two threads, beside what they pushed and read. -/
structure Placed (logger : Logger) : Prop where
  /-- Outside of the inner loop the logger thread holds no pointer. -/
  outside : logger.flusher ≠ .draining → logger.queue.consumer = .idle
  unsized : ∀ size, logger.queue.consumer ≠ .sized size
  /-- The destructor begins behind the last push. -/
  ready :
    logger.owner.stage ≤ 3 → ∃ seen, logger.queue.producer = .ready seen
  /-- The first wait ends when nothing is counted. -/
  emptied :
    logger.owner.stage ≤ 2 → logger.queue.counted = logger.queue.uncounted
  halted : logger.owner.stage ≤ 1 ↔ logger.running = false

section Runs

variable {inserters : Inserters} {self : Nat} {capacity : Capacity}
  {elements : List LogElement} {logger before after : Logger}

theorem placed_start : (start capacity elements).Placed where
  outside := fun _ => rfl
  unsized := nofun
  ready := fun _ => ⟨none, rfl⟩
  emptied := fun _ => rfl
  halted := by
    constructor
    · intro behind
      rw [start, Owner.stage] at behind
      omega
    · nofun

/-- The logger thread stays in its inner loop and leaves the owner alone. -/
theorem Placed.drains
    (placed : before.Placed)
    (consistent : before.queue.Consistent .pointerThenSize capacity)
    {queue : Spsc LogElement}
    (step :
      Spsc.Step .pointerThenSize self .consumer before.queue queue)
    (sameQueue : after.queue = queue)
    (sameOwner : after.owner = before.owner)
    (sameRunning : after.running = before.running)
    (inside : after.flusher = .draining ∨ queue.consumer = .idle) :
    after.Placed := by
  obtain ⟨sameCounted, uncounted, unsized⟩ :=
    step.flusher_counts consistent
  obtain ⟨_, sameProducer, _⟩ := step.consumer_frame
  refine ⟨?_, ?_, ?_, ?_, ?_⟩
  · intro outside
    rw [sameQueue]
    rcases inside with draining | idle
    · exact absurd draining outside
    · exact idle
  · rw [sameQueue]
    exact unsized placed.unsized
  · rw [sameOwner, sameQueue, sameProducer]
    exact placed.ready
  · rw [sameOwner, sameQueue, sameCounted]
    intro behind
    have none := placed.emptied behind
    rw [uncounted none]
    exact none
  · rw [sameOwner, sameRunning]
    exact placed.halted

/-- The owner pushes and leaves the logger thread alone. -/
theorem Placed.pushes
    (placed : before.Placed) {left rest : List LogElement}
    (stage : before.owner = .pushing left)
    {queue : Spsc LogElement}
    (step :
      Spsc.Step .pointerThenSize self .producer before.queue queue)
    (sameQueue : after.queue = queue)
    (stageAfter : after.owner = .pushing rest)
    (sameFlusher : after.flusher = before.flusher)
    (sameRunning : after.running = before.running) :
    after.Placed := by
  obtain ⟨sameConsumer, _⟩ := step.pusher_counts
  have early : ∀ most, most ≤ 3 → ¬ after.owner.stage ≤ most := by
    intro most small
    rw [stageAfter, Owner.stage]
    omega
  have running : before.running ≠ false := by
    intro halted
    have behind := placed.halted.mpr halted
    rw [stage, Owner.stage] at behind
    omega
  refine ⟨?_, ?_, ?_, ?_, ?_⟩
  · rw [sameQueue, sameConsumer, sameFlusher]
    exact placed.outside
  · rw [sameQueue, sameConsumer]
    exact placed.unsized
  · intro behind
    exact absurd behind (early 3 (Nat.le_refl 3))
  · intro behind
    exact absurd behind (early 2 (Nat.le_succ 2))
  · rw [sameRunning]
    exact iff_of_false (early 1 (by decide)) running

/-- When the size is zero, every element counted was taken off again. -/
theorem counted_eq_of_size_eq_zero
    {queue : Spsc LogElement}
    (consistent : queue.Consistent .pointerThenSize capacity)
    (bounded : queue.UnreadAtMost (capacity.size - 1))
    (empty : queue.queue.size = 0) :
    queue.counted = queue.uncounted := by
  have turns : 2 ^ 64 ∣ queue.counted - queue.uncounted :=
    consistent.tracks.storeSize_eq_zero_iff.mp empty
  have none : queue.counted - queue.uncounted = 0 :=
    Nat.eq_zero_of_dvd_of_lt turns (consistent.count_small bounded)
  have order := consistent.countOrder
  omega

theorem Placed.step
    {party : Party} (placed : before.Placed)
    (step : Step inserters self party before after)
    (consistent : before.queue.Consistent .pointerThenSize capacity)
    (bounded : before.UnreadAtMost (capacity.size - 1)) :
    after.Placed := by
  have halted := placed.halted
  cases step with
  | pushElement element left stage queueStep pushed =>
      exact placed.pushes stage queueStep rfl rfl rfl rfl
  | publish left stage unready queueStep =>
      exact placed.pushes stage queueStep rfl stage rfl rfl
  | enterDestructor seen _ stage ready =>
      rw [stage] at halted
      exact
        { outside := placed.outside
          unsized := placed.unsized
          ready := fun _ => ⟨seen, ready⟩
          emptied := by simp [Owner.stage]
          halted := by simpa [Owner.stage] using halted }
  | waitLonger _ _ _ =>
      exact placed
  | waitOver _ stage empty =>
      rw [stage] at halted
      exact
        { outside := placed.outside
          unsized := placed.unsized
          ready := fun _ => placed.ready (by simp [stage, Owner.stage])
          emptied := fun _ =>
            counted_eq_of_size_eq_zero consistent bounded empty
          halted := by simpa [Owner.stage] using halted }
  | stop _ stage =>
      exact
        { outside := placed.outside
          unsized := placed.unsized
          ready := fun _ => placed.ready (by simp [stage, Owner.stage])
          emptied := fun _ => placed.emptied (by simp [stage, Owner.stage])
          halted := by simp [Owner.stage] }
  | join stage returned =>
      rw [stage] at halted
      exact
        { outside := placed.outside
          unsized := placed.unsized
          ready := fun _ => placed.ready (by simp [stage, Owner.stage])
          emptied := fun _ => placed.emptied (by simp [stage, Owner.stage])
          halted := by simpa [Owner.stage] using halted }
  | enterLoop stage running =>
      exact
        { outside := fun outside => absurd rfl outside
          unsized := placed.unsized
          ready := placed.ready
          emptied := placed.emptied
          halted := halted }
  | leaveLoop stage halted =>
      exact
        { outside := fun _ => placed.outside (by simp [stage])
          unsized := placed.unsized
          ready := placed.ready
          emptied := placed.emptied
          halted := placed.halted }
  | insert element stage queueStep read =>
      exact placed.drains consistent queueStep rfl rfl rfl (.inl stage)
  | drain stage queueStep read _ =>
      exact placed.drains consistent queueStep rfl rfl rfl (.inl stage)
  | sleep next stage fetched queueStep idle =>
      exact placed.drains consistent queueStep rfl rfl rfl (.inr idle)

theorem placed_of_reachable
    (reached :
      (machine inserters self capacity elements).Reachable
        (Machine.staying (UnreadAtMost (capacity.size - 1))) logger) :
    logger.Placed := by
  apply reached.strong_invariant Placed placed_start
  intro party before after reachedBefore placed step _
  have onQueue := queue_reachable reachedBefore
  exact
    placed.step step (Spsc.consistent_of_reachable onQueue)
      (Spsc.bounded_of_reachable onQueue)

/-! ## What is left to do -/

/-- The elements that `size()` counts. -/
def waiting (logger : Logger) : Nat :=
  logger.queue.counted - logger.queue.uncounted

/-- How far `flushQueue()` is from a pop, or, with nothing to pop, from the end
of its inner loop. -/
def drainRank (waiting : Nat) : Consumer → Nat
  | .idle => if waiting = 0 then 3 else 7
  | .fetched none => if waiting = 0 then 2 else 9
  | .fetched (some _) => 6
  | .admitted _ => 5
  | .taken => 4
  | .released => 3
  | .checked => 2
  | .sized _ | .exited _ => 0

def flusherRank (waiting : Nat) (consumer : Consumer) : Flusher → Nat
  | .testing => if waiting = 0 then 1 else 8
  | .draining => drainRank waiting consumer
  | .returned => 0

def producerRank : Producer → Nat
  | .ready _ => 0
  | .written => 40
  | .published => 30

theorem flusherRank_le
    (waiting : Nat) (consumer : Consumer) (flusher : Flusher) :
    flusherRank waiting consumer flusher ≤ 9 := by
  have drain : drainRank waiting consumer ≤ 9 := by
    unfold drainRank
    split <;> (try split) <;> omega
  cases flusher with
  | testing =>
      rw [flusherRank]
      split <;> omega
  | draining =>
      exact drain
  | returned =>
      exact Nat.zero_le 9

/-- Taken down by the steps that bring the logger to its end. -/
def remaining (logger : Logger) : Nat :=
  logger.owner.stage + producerRank logger.queue.producer +
    10 * logger.waiting +
    flusherRank logger.waiting logger.queue.consumer logger.flusher

/-- A step of the logger thread that stays between two pops. -/
theorem remaining_lt
    (sameOwner : after.owner = before.owner)
    (sameProducer : after.queue.producer = before.queue.producer)
    (sameWaiting : after.waiting = before.waiting)
    (lower :
      flusherRank before.waiting after.queue.consumer after.flusher <
        flusherRank before.waiting before.queue.consumer before.flusher) :
    after.remaining < before.remaining := by
  rw [remaining, remaining, sameOwner, sameProducer, sameWaiting]
  omega

/-- Some step within the bound has less left to do behind it. -/
def Advances
    (inserters : Inserters) (self : Nat) (capacity : Capacity)
    (logger : Logger) : Prop :=
  ∃ party next,
    Step inserters self party logger next ∧
      next.UnreadAtMost (capacity.size - 1) ∧
      next.remaining < logger.remaining

/-- What is known of a logger that has one slot unused. -/
structure Regular
    (inserters : Inserters) (elements : List LogElement)
    (capacity : Capacity) (logger : Logger) : Prop where
  consistent : logger.queue.Consistent .pointerThenSize capacity
  bounded : logger.UnreadAtMost (capacity.size - 1)
  kept : logger.Kept inserters elements
  placed : logger.Placed

theorem regular_of_reachable
    (reached :
      (machine inserters self capacity elements).Reachable
        (Machine.staying (UnreadAtMost (capacity.size - 1))) logger) :
    logger.Regular inserters elements capacity where
  consistent := Spsc.consistent_of_reachable (queue_reachable reached)
  bounded := Spsc.bounded_of_reachable (queue_reachable reached)
  kept := kept_of_reachable reached
  placed := placed_of_reachable reached

theorem Regular.running
    (regular : logger.Regular inserters elements capacity) :
    logger.queue.Running :=
  regular.consistent.running_of_bounded (by decide) regular.bounded

/-- A push begun is finished by the owner. -/
theorem Regular.advances_of_unready
    (regular : logger.Regular inserters elements capacity)
    (unready : ∀ seen, logger.queue.producer ≠ .ready seen) :
    logger.Advances inserters self capacity := by
  have bounded := regular.bounded
  have order := regular.consistent.countOrder
  have early : ¬ logger.owner.stage ≤ 3 := by
    intro behind
    obtain ⟨seen, ready⟩ := regular.placed.ready behind
    exact unready seen ready
  cases stage : logger.owner with
  | pushing left =>
      cases position : logger.queue.producer with
      | ready seen =>
          exact absurd position (unready seen)
      | written =>
          refine
            ⟨_, _,
              Step.publish left stage unready
                (Spsc.Step.storeWriteIndex regular.running position),
              bounded, ?_⟩
          simp [remaining, waiting, position, producerRank]
      | published =>
          refine
            ⟨_, _,
              Step.publish left stage unready
                (Spsc.Step.incrementSize regular.running position),
              bounded, ?_⟩
          have few :=
            flusherRank_le
              (logger.queue.counted + 1 - logger.queue.uncounted)
              logger.queue.consumer logger.flusher
          simp only [remaining, waiting, position, producerRank]
          omega
  | waiting | stopping | joining | closed =>
      rw [stage] at early
      exact absurd (by decide) early

/-- With an element counted, `flushQueue()` has not returned. -/
theorem Regular.running_of_waiting
    (regular : logger.Regular inserters elements capacity)
    (counted : 0 < logger.waiting) : logger.running = true := by
  rw [waiting] at counted
  cases running : logger.running with
  | true =>
      rfl
  | false =>
      have behind := regular.placed.halted.mpr running
      have none := regular.placed.emptied (by omega)
      omega

/-- What the counts are between two pushes. -/
theorem Regular.ready_counts
    (regular : logger.Regular inserters elements capacity)
    {seen : Option SizeT} (ready : logger.queue.producer = .ready seen) :
    logger.queue.pushed.length = logger.queue.published ∧
      logger.queue.published = logger.queue.counted := by
  have producer := regular.consistent.producer
  simpa only [Spsc.ProducerCounts, ready] using producer

theorem Regular.size_ne_zero
    (regular : logger.Regular inserters elements capacity)
    (counted : 0 < logger.waiting) :
    logger.queue.queue.storeSize ≠ 0 := by
  intro zero
  have none :=
    counted_eq_of_size_eq_zero regular.consistent regular.bounded zero
  rw [waiting] at counted
  omega

/-- A step of the inner loop that is nearer to a pop. -/
theorem advances_of_drain
    (stage : logger.flusher = .draining) {queue : Spsc LogElement}
    (step :
      Spsc.Step .pointerThenSize self .consumer logger.queue queue)
    (sameRead : queue.read = logger.queue.read)
    (inside :
      (∀ next, logger.queue.consumer ≠ .fetched next) ∨
        queue.consumer ≠ .idle)
    (bounded : queue.UnreadAtMost (capacity.size - 1))
    (sameWaiting : queue.counted - queue.uncounted = logger.waiting)
    (lower :
      drainRank logger.waiting queue.consumer <
        drainRank logger.waiting logger.queue.consumer) :
    logger.Advances inserters self capacity := by
  obtain ⟨_, sameProducer, _⟩ := step.consumer_frame
  refine ⟨_, _, Step.drain stage step sameRead inside, bounded, ?_⟩
  refine remaining_lt rfl sameProducer sameWaiting ?_
  rw [stage]
  exact lower

/-- `getNextToRead()` finds the element that is counted. -/
theorem Regular.fetches
    (regular : logger.Regular inserters elements capacity)
    {seen : Option SizeT} (ready : logger.queue.producer = .ready seen)
    (idle : logger.queue.consumer = .idle) (counted : 0 < logger.waiting) :
    logger.queue.queue.getNextToRead =
      some (logger.queue.released % capacity.size) := by
  have counts := regular.ready_counts ready
  have bounded := regular.bounded
  have positive := capacity.positive
  have consumer := regular.consistent.consumer
  simp only [Spsc.ConsumerCounts, idle] at consumer
  rw [waiting] at counted
  rw [UnreadAtMost, Spsc.UnreadAtMost] at bounded
  apply
    (regular.consistent.tracks.getNextToRead_eq_some_iff
      regular.consistent.indexOrder).mpr
  refine ⟨rfl, ?_⟩
  intro laps
  have unread := Nat.le_of_dvd (by omega) laps
  omega

/-- In the inner loop, the logger thread takes the next element. -/
theorem Regular.advances_of_draining
    (regular : logger.Regular inserters elements capacity)
    {seen : Option SizeT} (ready : logger.queue.producer = .ready seen)
    (counted : 0 < logger.waiting) (stage : logger.flusher = .draining) :
    logger.Advances inserters self capacity := by
  have bounded := regular.bounded
  have tracks := regular.consistent.tracks
  have consumer := regular.consistent.consumer
  have nonzero := regular.size_ne_zero counted
  have present : logger.waiting ≠ 0 := Nat.ne_of_gt counted
  cases position : logger.queue.consumer with
  | idle =>
      have check :
          Check .pointerThenSize logger.queue.queue logger.queue.consumer
            (.fetched logger.queue.queue.getNextToRead) := by
        rw [position]
        exact Check.fetch (by decide)
      apply
        advances_of_drain stage (Spsc.Step.check _ check) rfl (.inr (by simp))
          bounded rfl
      rw [regular.fetches ready position counted, position]
      simp [drainRank, present]
  | fetched next =>
      cases next with
      | none =>
          have check :
              Check .pointerThenSize logger.queue.queue
                logger.queue.consumer .idle := by
            rw [position]
            exact Check.refuse none (.inl rfl)
          refine
            ⟨_, _,
              Step.sleep none stage position (Spsc.Step.check _ check) rfl,
              bounded, ?_⟩
          refine remaining_lt rfl rfl rfl ?_
          simp [flusherRank, drainRank, stage, position, present]
      | some slot =>
          have check :
              Check .pointerThenSize logger.queue.queue
                logger.queue.consumer (.admitted slot) := by
            rw [position]
            exact Check.enter slot rfl nonzero
          apply
            advances_of_drain stage (Spsc.Step.check _ check) rfl
              (.inr (by simp)) bounded rfl
          rw [position]
          simp [drainRank]
  | sized size =>
      exact absurd position (regular.placed.unsized size)
  | admitted slot =>
      simp only [Spsc.ConsumerCounts, position] at consumer
      obtain ⟨_, _, place, _⟩ := consumer
      have inside : slot < logger.queue.queue.store.length := by
        rw [place]
        exact tracks.slot_inside _
      have reads :
          vectorAt logger.queue.queue.store slot =
            .ok logger.queue.queue.store[slot] :=
        vectorAt_eq_ok_iff.mpr (List.getElem?_eq_getElem inside)
      refine
        ⟨_, _,
          Step.insert _ stage (Spsc.Step.readSlot slot _ position reads)
            rfl,
          bounded, ?_⟩
      refine remaining_lt rfl rfl rfl ?_
      simp [flusherRank, drainRank, stage, position]
  | taken =>
      have boundedAfter :
          logger.queue.pushed.length ≤
            logger.queue.released + 1 + (capacity.size - 1) := by
        rw [UnreadAtMost, Spsc.UnreadAtMost] at bounded
        omega
      apply
        advances_of_drain stage (Spsc.Step.storeReadIndex position) rfl
          (.inr (by simp)) boundedAfter rfl
      rw [position]
      simp [drainRank]
  | released =>
      have holds :=
        (assertStoreSize_eq_ok_iff logger.queue.queue self).mpr nonzero
      apply
        advances_of_drain stage (Spsc.Step.assertHolds position holds) rfl
          (.inr (by simp)) bounded rfl
      rw [position]
      simp [drainRank]
  | checked =>
      -- the pop ends: one element fewer is counted
      refine
        ⟨_, _,
          Step.drain stage (Spsc.Step.decrementSize position) rfl
            (.inl (by simp [position])),
          bounded, ?_⟩
      have few :
          drainRank
              (logger.queue.counted - (logger.queue.uncounted + 1)) .idle ≤
            7 := by
        rw [drainRank]
        split <;> omega
      have now :
          drainRank (logger.queue.counted - logger.queue.uncounted)
              .checked =
            2 := rfl
      simp only [waiting] at counted
      simp only [remaining, waiting, flusherRank, stage, position, now]
      omega
  | exited fault =>
      exact absurd position (regular.running fault)

/-- The logger thread takes the next element that is counted. -/
theorem Regular.advances_of_waiting
    (regular : logger.Regular inserters elements capacity)
    {seen : Option SizeT} (ready : logger.queue.producer = .ready seen)
    (counted : 0 < logger.waiting) :
    logger.Advances inserters self capacity := by
  have running := regular.running_of_waiting counted
  cases stage : logger.flusher with
  | returned =>
      rw [regular.kept.returned stage] at running
      cases running
  | testing =>
      refine ⟨_, _, Step.enterLoop stage running, regular.bounded, ?_⟩
      have idle := regular.placed.outside (by simp [stage])
      refine remaining_lt rfl rfl rfl ?_
      simp [flusherRank, drainRank, stage, idle, Nat.ne_of_gt counted]
  | draining =>
      exact regular.advances_of_draining ready counted stage

/-- With nothing counted, everything pushed was popped, and the consumer is
before a pop. -/
theorem Regular.popped_of_nothing
    (regular : logger.Regular inserters elements capacity)
    {seen : Option SizeT} (ready : logger.queue.producer = .ready seen)
    (nothing : logger.waiting = 0) :
    logger.queue.published = logger.queue.released ∧
      (logger.queue.consumer = .idle ∨
        logger.queue.consumer = .fetched none) := by
  obtain ⟨_, published⟩ := regular.ready_counts ready
  have order := regular.consistent.countOrder
  have consumer := regular.consistent.consumer
  have uncounted : ¬ logger.queue.uncounted < logger.queue.counted := by
    rw [waiting] at nothing
    omega
  rw [Spsc.ConsumerCounts] at consumer
  cases position : logger.queue.consumer with
  | idle =>
      simp only [position] at consumer
      exact ⟨by omega, .inl rfl⟩
  | fetched next =>
      simp only [position] at consumer
      obtain ⟨popped, _, pointer⟩ := consumer
      cases next with
      | none =>
          exact ⟨by omega, .inr rfl⟩
      | some slot =>
          obtain ⟨_, unread⟩ := pointer slot rfl
          omega
  | sized size =>
      exact absurd position (regular.placed.unsized size)
  | admitted slot =>
      simp only [position] at consumer
      obtain ⟨_, _, _, _, counted⟩ := consumer
      exact absurd (counted (by decide)) uncounted
  | taken =>
      simp only [position] at consumer
      obtain ⟨_, _, _, counted⟩ := consumer
      exact absurd (counted (by decide)) uncounted
  | released =>
      simp only [position] at consumer
      obtain ⟨_, _, counted⟩ := consumer
      exact absurd (counted (by decide)) uncounted
  | checked =>
      simp only [position] at consumer
      obtain ⟨_, _, counted⟩ := consumer
      exact absurd counted uncounted
  | exited fault =>
      exact absurd position (regular.running fault)

/-- With nothing counted, the owner goes on until it joins. -/
theorem Regular.advances_of_owner
    (regular : logger.Regular inserters elements capacity)
    (two : 2 ≤ capacity.size)
    {seen : Option SizeT} (ready : logger.queue.producer = .ready seen)
    (nothing : logger.waiting = 0) (early : 2 ≤ logger.owner.stage) :
    logger.Advances inserters self capacity := by
  have bounded := regular.bounded
  have running := regular.running
  have counts := regular.ready_counts ready
  obtain ⟨popped, _⟩ := regular.popped_of_nothing ready nothing
  cases stage : logger.owner with
  | pushing left =>
      cases left with
      | nil =>
          refine
            ⟨_, _, Step.enterDestructor seen running stage ready, bounded,
              ?_⟩
          simp only [remaining, waiting, stage, Owner.stage]
          omega
      | cons element left =>
          have boundedAfter :
              (logger.queue.pushed ++ [element]).length ≤
                logger.queue.released + (capacity.size - 1) := by
            rw [List.length_append, List.length_singleton]
            omega
          refine
            ⟨_, _,
              Step.pushElement element left stage
                (Spsc.Step.writeSlot seen element running ready) rfl,
              boundedAfter, ?_⟩
          simp only [remaining, waiting, stage, Owner.stage, ready,
            producerRank, List.length_cons]
          omega
  | waiting =>
      have empty : logger.queue.queue.size = 0 := by
        apply regular.consistent.tracks.storeSize_eq_zero_iff.mpr
        rw [← waiting, nothing]
        exact Nat.dvd_zero _
      refine ⟨_, _, Step.waitOver running stage empty, bounded, ?_⟩
      simp only [remaining, waiting, stage, Owner.stage]
      omega
  | stopping =>
      refine ⟨_, _, Step.stop running stage, bounded, ?_⟩
      simp only [remaining, waiting, stage, Owner.stage]
      omega
  | joining | closed =>
      rw [stage] at early
      exact absurd early (by decide)

/-- In the join, the logger thread leaves its loops. -/
theorem Regular.advances_of_joining
    (regular : logger.Regular inserters elements capacity)
    {seen : Option SizeT} (ready : logger.queue.producer = .ready seen)
    (nothing : logger.waiting = 0) (joining : logger.owner = .joining) :
    logger.Advances inserters self capacity := by
  have bounded := regular.bounded
  have halted : logger.running = false := by
    apply regular.placed.halted.mp
    rw [joining, Owner.stage]
  obtain ⟨popped, between⟩ := regular.popped_of_nothing ready nothing
  cases stage : logger.flusher with
  | testing =>
      refine ⟨_, _, Step.leaveLoop stage halted, bounded, ?_⟩
      refine remaining_lt rfl rfl rfl ?_
      simp [flusherRank, stage, nothing]
  | returned =>
      refine ⟨_, _, Step.join joining stage, bounded, ?_⟩
      simp only [remaining, waiting, joining, Owner.stage]
      omega
  | draining =>
      rcases between with idle | fetched
      · have empty : logger.queue.queue.getNextToRead = none := by
          apply
            (regular.consistent.tracks.getNextToRead_eq_none_iff
              regular.consistent.indexOrder).mpr
          rw [popped, Nat.sub_self]
          exact Nat.dvd_zero _
        have check :
            Check .pointerThenSize logger.queue.queue logger.queue.consumer
              (.fetched logger.queue.queue.getNextToRead) := by
          rw [idle]
          exact Check.fetch (by decide)
        apply
          advances_of_drain stage (Spsc.Step.check _ check) rfl
            (.inr (by simp)) bounded rfl
        rw [empty, idle]
        simp [drainRank, nothing]
      · have check :
            Check .pointerThenSize logger.queue.queue logger.queue.consumer
              .idle := by
          rw [fetched]
          exact Check.refuse none (.inl rfl)
        refine
          ⟨_, _,
            Step.sleep none stage fetched (Spsc.Step.check _ check) rfl,
            bounded, ?_⟩
        refine remaining_lt rfl rfl rfl ?_
        simp [flusherRank, drainRank, stage, fetched, nothing]

theorem Regular.advances
    (regular : logger.Regular inserters elements capacity)
    (two : 2 ≤ capacity.size) (unclosed : logger.owner ≠ .closed) :
    logger.Advances inserters self capacity := by
  by_cases ready : ∃ seen, logger.queue.producer = .ready seen
  · obtain ⟨seen, ready⟩ := ready
    by_cases counted : 0 < logger.waiting
    · exact regular.advances_of_waiting ready counted
    · have nothing := Nat.eq_zero_of_not_pos counted
      by_cases early : 2 ≤ logger.owner.stage
      · exact regular.advances_of_owner two ready nothing early
      · have joining : logger.owner = .joining := by
          cases stage : logger.owner with
          | joining =>
              rfl
          | closed =>
              exact absurd stage unclosed
          | pushing left | waiting | stopping =>
              rw [stage, Owner.stage] at early
              omega
        exact regular.advances_of_joining ready nothing joining
  · exact
      regular.advances_of_unready fun seen position =>
        ready ⟨seen, position⟩

theorem closes
    (two : 2 ≤ capacity.size)
    (reached :
      (machine inserters self capacity elements).Reachable
        (Machine.staying (UnreadAtMost (capacity.size - 1))) logger) :
    ∃ final,
      (machine inserters self capacity elements).Leads
          (Machine.staying (UnreadAtMost (capacity.size - 1))) logger
          final ∧
        (machine inserters self capacity elements).Reachable
          (Machine.staying (UnreadAtMost (capacity.size - 1))) final ∧
        final.owner = .closed := by
  apply Machine.leads_of_measure _ _ remaining _ reached
  intro state reachedState unclosed
  obtain ⟨party, next, step, bounded, lower⟩ :=
    (regular_of_reachable reachedState).advances two unclosed
  exact
    ⟨party, next, step, bounded, reachedState.next step bounded, lower⟩

/-- A closed logger has written every element. -/
theorem file_of_closed
    (reached :
      (machine inserters self capacity elements).Reachable
        (Machine.staying (UnreadAtMost (capacity.size - 1))) logger)
    (closed : logger.owner = .closed) :
    logger.file = inserters.elements elements := by
  have kept := kept_of_reachable reached
  have inOrder := Spsc.read_prefix_pushed (queue_reachable reached)
  have owner := kept.owner
  rw [OwnerCounts] at owner
  simp only [closed] at owner
  obtain ⟨pushed, allRead⟩ := owner
  rw [kept.file, inOrder.eq_of_length allRead, pushed]

/-- While one slot stays unused, no state of the two threads is a dead end: each
has a continuation, within the bound too, in which the owner pushes the rest of
its elements and both waits of `~Logger` end, and the file then holds them
all. -/
theorem logger_can_close
    (inserters : Inserters) (self : Nat) (capacity : Capacity)
    (elements : List LogElement) (logger : Logger)
    (two : 2 ≤ capacity.size)
    (reached :
      (machine inserters self capacity elements).Reachable
        (Machine.staying (UnreadAtMost (capacity.size - 1))) logger) :
    ∃ final,
      (machine inserters self capacity elements).Leads
          (Machine.staying (UnreadAtMost (capacity.size - 1))) logger
          final ∧
        final.owner = .closed ∧
        final.file = inserters.elements elements := by
  obtain ⟨final, run, reachedFinal, closed⟩ := closes two reached
  exact ⟨final, run, closed, file_of_closed reachedFinal closed⟩

end Runs

/-- A logger of two slots in the middle of its first push, whose thread has
found nothing to read yet, is closed with both elements written. -/
theorem logger_can_close_sample :
    ∃ logger final,
      (machine sampleInserters 0 twoSlots [.char 65, .char 66]).Reachable
          (Machine.staying (UnreadAtMost (twoSlots.size - 1))) logger ∧
        logger.queue.producer = .written ∧
        logger.queue.consumer = .fetched none ∧
        (machine sampleInserters 0 twoSlots [.char 65, .char 66]).Leads
          (Machine.staying (UnreadAtMost (twoSlots.size - 1))) logger
          final ∧
        final.owner = .closed ∧
        final.file = [65, 66] := by
  have atStart :
      (machine sampleInserters 0 twoSlots [.char 65, .char 66]).Reachable
        (Machine.staying (UnreadAtMost (twoSlots.size - 1)))
        (start twoSlots [.char 65, .char 66]) :=
    Machine.Reachable.start
  have entered := atStart.next (Step.enterLoop rfl rfl) (Nat.le_succ 0)
  have pushed :=
    entered.next
      (Step.pushElement (.char 65) [.char 66] rfl
        (Spsc.Step.writeSlot none _ nofun rfl) rfl)
      (Nat.le_refl 1)
  have missed :=
    pushed.next
      (Step.drain rfl (Spsc.Step.check _ (Check.fetch nofun)) rfl
        (.inr nofun))
      (Nat.le_refl 1)
  obtain ⟨final, run, closed, file⟩ :=
    logger_can_close sampleInserters 0 twoSlots [.char 65, .char 66] _
      (Nat.le_refl 2) missed
  exact ⟨_, final, missed, rfl, rfl, run, closed, file⟩

end Logger

end LowLatencyBlocks
