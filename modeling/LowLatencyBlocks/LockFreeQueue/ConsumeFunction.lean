import LowLatencyBlocks.Library.Progress
import LowLatencyBlocks.LockFreeQueue.ReadAfterRelease

/-!
# How `consumeFunction` ends

`consumeFunction` returns as soon as it finds the queue empty, whether or not
`writeFunction` has more to push.  What it has printed then is a beginning of
what was pushed, and it stays so.  From every state before that it can still
print everything pushed so far, as long as it is given the time to.
-/

namespace LowLatencyBlocks

open Library

namespace LFQueue

namespace Program

/-- The stages left in the iteration that the reader is in. -/
def readerRank : Reader → Nat
  | .test => 9
  | .sized => 8
  | .fetched _ => 7
  | .released _ => 6
  | .checked _ => 5
  | .reading _ got => 4 - got.length
  | .done => 0
  | .exited _ => 0

/-- The stages left in the push that the writer is in. -/
def writerRank : Writer → Nat
  | .ready => 0
  | .published => 1
  | .copying _ _ copied => if ∀ field, copied field = true then 2 else 3

/-- Taken down by every step that brings the reader nearer to its end. -/
def distance (state : Program) : Nat :=
  12 * (state.pushed.length - state.lines.length) +
    readerRank state.reader + writerRank state.writer

section Steps

variable {self : Nat} {capacity : Capacity} {default : MyStruct}
  {state before after : Program}

/-- As many lines as were printed show as many of the structs pushed. -/
theorem Consistent.lines_eq
    (consistent : state.Consistent capacity) :
    state.lines.map Line.got =
      (state.pushed.take state.lines.length).map MyStruct.fields := by
  apply List.ext_getElem?
  intro k
  rw [List.getElem?_map, List.getElem?_map]
  by_cases printed : k < state.lines.length
  · have line := List.getElem?_eq_getElem printed
    obtain ⟨held, found, fields⟩ := consistent.lines k _ line
    rw [List.getElem?_take_of_lt printed, line, found]
    exact congrArg some fields
  · have noLine : state.lines[k]? = none :=
      List.getElem?_eq_none (Nat.le_of_not_lt printed)
    have noStruct :
        (state.pushed.take state.lines.length)[k]? = none := by
      apply List.getElem?_eq_none
      rw [List.length_take]
      omega
    rw [noLine, noStruct]
    rfl

/-- Behind its last test the reader prints nothing. -/
theorem Step.of_done
    {thread : Thread} (step : Step self thread before after)
    (done : before.reader = .done) :
    after.reader = .done ∧ after.lines = before.lines := by
  cases step with
  | beginPush | copy | storeWriteIndex | incrementSize =>
      exact ⟨done, rfl⟩
  | enter stage | leave stage | fetch stage | storeReadIndex _ stage
  | assertHolds _ stage | assertFails _ _ stage | decrementSize _ stage
  | readField _ _ _ _ stage | printLine _ _ stage =>
      rw [done] at stage
      cases stage

/-- A way to go on that pushes nothing new. -/
structure Nearer
    (identifier : Nat) (before : Program) (thread : Thread)
    (after : Program) : Prop where
  step : Step identifier thread before after
  pushed : after.pushed = before.pushed
  released : before.released ≤ after.released
  lower : after.distance < before.distance

/-- A push that was begun can be finished. -/
theorem Consistent.exists_writer_step
    (consistent : state.Consistent capacity)
    (running : state.Running) (pushing : state.writer ≠ .ready) :
    ∃ after,
      state.Nearer self .producer after ∧ after.reader = state.reader := by
  have writer := consistent.writer
  rw [WriterCounts] at writer
  cases stage : state.writer with
  | ready =>
      exact absurd stage pushing
  | published =>
      refine ⟨_, ⟨.incrementSize running stage, rfl, Nat.le_refl _, ?_⟩, rfl⟩
      simp only [distance, stage, writerRank]
      omega
  | copying item slot copied =>
      simp only [stage] at writer
      obtain ⟨_, _, _, _, content, found, _⟩ := writer
      by_cases complete : ∀ field, copied field = true
      · refine
          ⟨_, ⟨.storeWriteIndex item slot copied running stage complete, rfl,
            Nat.le_refl _, ?_⟩, rfl⟩
        simp only [distance, stage, writerRank, complete, implies_true,
          if_true]
        omega
      · have loads := vectorAt_eq_ok_iff.mpr found
        refine
          ⟨_, ⟨.copy item content slot copied (fun _ => true) running stage
            loads, rfl, Nat.le_refl _, ?_⟩, rfl⟩
        simp only [distance, stage, writerRank, complete, Bool.or_true,
          implies_true, if_true, if_false]
        omega

/-- A reader beside a writer that is not pushing goes on, and it ends only when
it has printed everything. -/
theorem Consistent.exists_reader_step
    (consistent : state.Consistent capacity)
    (bounded : state.UnreadAtMost (capacity.size - 1))
    (idle : state.writer = .ready) (unfinished : state.reader ≠ .done) :
    ∃ after,
      state.Nearer self .consumer after ∧
        (after.reader = .done →
          after.lines.length = after.pushed.length) := by
  have writer := consistent.writer
  simp only [WriterCounts, idle] at writer
  obtain ⟨begun, counted⟩ := writer
  have countOrder := consistent.countOrder
  have indexOrder := consistent.indexOrder
  have reader := consistent.reader
  rw [ReaderCounts] at reader
  cases stage : state.reader with
  | done =>
      exact absurd stage unfinished
  | exited fault =>
      simp only [stage] at reader
  | test =>
      simp only [stage] at reader
      obtain ⟨popped, printed⟩ := reader
      have nonzeroIff :=
        consistent.size_ne_zero_iff bounded (by omega)
      by_cases empty : state.queue.size = 0
      · have all : ¬ state.uncounted < state.counted :=
          fun some => nonzeroIff.mpr some empty
        refine ⟨_, ⟨.leave stage empty, rfl, Nat.le_refl _, ?_⟩, ?_⟩
        · simp only [distance, stage, readerRank]
          omega
        · intro _
          simp only
          omega
      · refine ⟨_, ⟨.enter stage empty, rfl, Nat.le_refl _, ?_⟩, by simp⟩
        simp only [distance, stage, readerRank]
        omega
  | sized =>
      refine ⟨_, ⟨.fetch stage, rfl, Nat.le_refl _, ?_⟩, by simp⟩
      simp only [distance, stage, readerRank]
      omega
  | fetched item =>
      refine
        ⟨_, ⟨.storeReadIndex item stage, rfl, Nat.le_succ _, ?_⟩, by simp⟩
      simp only [distance, stage, readerRank]
      omega
  | released item =>
      simp only [stage] at reader
      obtain ⟨popped, _, waiting, _⟩ := reader
      have nonzero :=
        (consistent.size_ne_zero_iff bounded (by omega)).mpr waiting
      have holds := (assertStoreSize_eq_ok_iff state.queue self).mpr nonzero
      refine
        ⟨_, ⟨.assertHolds item stage holds, rfl, Nat.le_refl _, ?_⟩, by simp⟩
      simp only [distance, stage, readerRank]
      omega
  | checked item =>
      refine
        ⟨_, ⟨.decrementSize item stage, rfl, Nat.le_refl _, ?_⟩, by simp⟩
      simp only [distance, stage, readerRank, List.length_nil]
      omega
  | reading item got =>
      simp only [stage] at reader
      obtain ⟨popped, printed, place, held, found, fields⟩ := reader
      subst place
      have inside : state.lines.length < state.pushed.length := by omega
      by_cases more : got.length < 3
      · have slotInside :=
          consistent.tracks.slot_inside state.lines.length
        have loads :=
          vectorAt_eq_ok_iff.mpr (List.getElem?_eq_getElem slotInside)
        refine
          ⟨_, ⟨.readField _ got _ more stage loads, rfl, Nat.le_refl _, ?_⟩,
            by simp⟩
        simp only [distance, stage, readerRank, List.length_append,
          List.length_singleton]
        omega
      · have atMost : got.length ≤ 3 := by
          rw [fields]
          exact List.length_take_le' _ _
        refine
          ⟨_, ⟨.printLine _ got stage (by omega), rfl, Nat.le_refl _, ?_⟩,
            by simp⟩
        simp only [distance, stage, readerRank, List.length_append,
          List.length_singleton]
        omega

/-- What a run that pushes nothing new keeps, beside what every run keeps. -/
structure Draining
    (capacity : Capacity) (all : List MyStruct) (state : Program) : Prop where
  consistent : state.Consistent capacity
  bounded : state.UnreadAtMost (capacity.size - 1)
  pushed : state.pushed = all
  complete : state.reader = .done → state.lines.length = all.length

theorem Draining.progress
    {all : List MyStruct} (draining : state.Draining capacity all)
    (unfinished : state.reader ≠ .done) :
    ∃ thread after,
      Step self thread state after ∧
        after.UnreadAtMost (capacity.size - 1) ∧
        after.Draining capacity all ∧
        after.distance < state.distance := by
  have consistent := draining.consistent
  have stays {thread : Thread} {after : Program}
      (nearer : state.Nearer self thread after) :
      after.UnreadAtMost (capacity.size - 1) := by
    have bounded := draining.bounded
    have released := nearer.released
    rw [UnreadAtMost] at bounded ⊢
    rw [nearer.pushed]
    omega
  by_cases idle : state.writer = .ready
  · obtain ⟨after, nearer, finished⟩ :=
      @Consistent.exists_reader_step self capacity state consistent
        draining.bounded idle unfinished
    refine
      ⟨.consumer, after, nearer.step, stays nearer, ⟨?_, stays nearer, ?_, ?_⟩,
        nearer.lower⟩
    · exact consistent.reader_step draining.bounded nearer.step
    · exact nearer.pushed.trans draining.pushed
    · intro done
      rw [finished done, nearer.pushed, draining.pushed]
  · have running : state.Running := by
      intro fault exited
      have reader := consistent.reader
      simp only [ReaderCounts, exited] at reader
    obtain ⟨after, nearer, sameReader⟩ :=
      @Consistent.exists_writer_step self capacity state consistent running
        idle
    refine
      ⟨.producer, after, nearer.step, stays nearer, ⟨?_, stays nearer, ?_, ?_⟩,
        nearer.lower⟩
    · exact consistent.writer_step nearer.step
    · exact nearer.pushed.trans draining.pushed
    · intro done
      rw [sameReader] at done
      exact absurd done unfinished

end Steps

/-- While one slot stays unused: when `consumeFunction` has left its loop, its
lines show a beginning of what was pushed, and no line is added whatever the
other thread still does; and until it leaves, it can go on to print everything
pushed so far and leave then. -/
theorem consumeFunction_ends
    (self : Nat) (capacity : Capacity) (default : MyStruct)
    (state : Program)
    (reached :
      (machine self capacity default).Reachable
        (Machine.staying (UnreadAtMost (capacity.size - 1))) state) :
    (state.reader = .done →
      state.lines.map Line.got <+: state.pushed.map MyStruct.fields ∧
        ∀ later,
          (machine self capacity default).Leads Machine.anyStep state later →
          later.reader = .done ∧ later.lines = state.lines) ∧
    (state.reader ≠ .done →
      ∃ final,
        (machine self capacity default).Leads
            (Machine.staying (UnreadAtMost (capacity.size - 1))) state
            final ∧
          final.reader = .done ∧ final.pushed = state.pushed ∧
          final.lines.map Line.got =
            state.pushed.map MyStruct.fields) := by
  have consistent := consistent_of_reachable reached
  constructor
  · intro done
    constructor
    · rw [consistent.lines_eq]
      exact (List.take_prefix _ _).map MyStruct.fields
    · intro later run
      apply
        run.invariant
          (fun later =>
            later.reader = .done ∧ later.lines = state.lines) _
          ⟨done, rfl⟩
      intro thread before after kept step _
      obtain ⟨stillDone, sameLines⟩ := Step.of_done step kept.1
      exact ⟨stillDone, sameLines.trans kept.2⟩
  · intro unfinished
    have initial : (start capacity default).UnreadAtMost (capacity.size - 1) :=
      Nat.zero_le _
    have ends :
        ∃ final,
          (machine self capacity default).Leads
              (Machine.staying (UnreadAtMost (capacity.size - 1))) state
              final ∧
            final.Draining capacity state.pushed ∧
            final.reader = .done := by
      apply
        Machine.leads_of_measure
          (fun later : Program => later.Draining capacity state.pushed)
          (fun later => later.reader = .done) distance
      · intro later draining unfinished
        obtain ⟨thread, after, step, bounded, kept, lower⟩ :=
          @Draining.progress self capacity later state.pushed draining
            unfinished
        exact ⟨thread, after, step, bounded, kept, lower⟩
      · exact
          ⟨consistent, reached.within initial, rfl,
            fun done => absurd done unfinished⟩
    obtain ⟨final, run, draining, done⟩ := ends
    refine ⟨final, run, done, draining.pushed, ?_⟩
    rw [draining.consistent.lines_eq, draining.complete done,
      draining.pushed, List.take_length]

/-- A struct whose push has just begun can still be printed. -/
theorem consumeFunction_ends_sample :
    ∃ state final : Program,
      state.pushed = [⟨fun _ => 5⟩] ∧
        (machine 0 twoSlots ⟨fun _ => 0⟩).Leads
          (Machine.staying (UnreadAtMost (twoSlots.size - 1))) state final ∧
        final.lines.map Line.got = [[5, 5, 5]] := by
  have atStart :
      (machine 0 twoSlots ⟨fun _ => 0⟩).Reachable
        (Machine.staying (UnreadAtMost (twoSlots.size - 1)))
        (start twoSlots ⟨fun _ => 0⟩) :=
    Machine.Reachable.start
  have running : (start twoSlots ⟨fun _ => 0⟩).Running := by
    intro fault exited
    cases exited
  have begun :=
    atStart.next (Step.beginPush ⟨fun _ => 5⟩ running rfl) (Nat.le_refl 1)
  obtain ⟨_, goesOn⟩ :=
    consumeFunction_ends 0 twoSlots ⟨fun _ => 0⟩ _ begun
  obtain ⟨final, run, _, _, printed⟩ := goesOn (by simp [start])
  exact ⟨_, final, rfl, run, printed⟩

end Program

end LFQueue

end LowLatencyBlocks
