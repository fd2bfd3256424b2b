import LowLatencyBlocks.LockFreeQueue.Interleaving

/-!
# Reading a slot after giving it back

The threads of `lock-free-queue/program.cpp`.  `consumeFunction` calls
`updateReadIndex()` before it reads the three fields of its element, and it
tests `size()` but not the pointer.  Copying a struct into a slot takes any
number of steps, each of which writes any of its fields.

With one slot unused the producer cannot reach the slot that was given back
last, and this is all that keeps the three reads right.
-/

namespace LowLatencyBlocks

open Library

/-- `struct MyStruct { int d_[3]; }`. -/
structure MyStruct where
  d : Fin 3 → Int32

namespace MyStruct

/-- The fields in the order in which they are printed. -/
def fields (item : MyStruct) : List Int32 :=
  [item.d 0, item.d 1, item.d 2]

/-- One step of copying `source` over `target`: the chosen fields. -/
def copyFields
    (chosen : Fin 3 → Bool) (source target : MyStruct) : MyStruct where
  d field := if chosen field then source.d field else target.d field

theorem eq_of_fields_eq
    {first second : MyStruct}
    (same : ∀ field, first.d field = second.d field) :
    first = second := by
  cases first
  cases second
  simpa using funext same

theorem fields_take_succ
    (item : MyStruct) (index : Nat) (inside : index < 3) :
    item.fields.take (index + 1) =
      item.fields.take index ++ [item.d ⟨index, inside⟩] := by
  match index, inside with
  | 0, _ | 1, _ | 2, _ => rfl

end MyStruct

namespace LFQueue

/-- Where `writeFunction` stands. -/
inductive Writer where
  | ready
  | copying (item : MyStruct) (slot : Nat) (copied : Fin 3 → Bool)
  | published

/-- Where `consumeFunction` stands; `item` is its local pointer. -/
inductive Reader where
  | test
  | sized
  | fetched (item : Option Nat)
  | released (item : Option Nat)
  | checked (item : Option Nat)
  | reading (item : Option Nat) (got : List Int32)
  | done
  /-- The process has ended in the `ASSERT`. -/
  | exited (fault : Fault)

/-- The pointer that `consumeFunction` holds. -/
def Reader.item : Reader → Option (Option Nat)
  | .fetched item => some item
  | .released item => some item
  | .checked item => some item
  | .reading item _ => some item
  | _ => none

/-- A line of output: the three fields and the `size()` printed after them. -/
structure Line where
  got : List Int32
  size : SizeT

/-- The queue, both threads, the output, and the history of the run. -/
structure Program where
  queue : LFQueue MyStruct
  writer : Writer
  reader : Reader
  pushed : List MyStruct
  published : Nat
  counted : Nat
  released : Nat
  uncounted : Nat
  lines : List Line

namespace Program

def Running (state : Program) : Prop :=
  ∀ fault, state.reader ≠ .exited fault

/-- The steps of `writeFunction` and `consumeFunction`. -/
inductive Step (self : Nat) : Thread → Program → Program → Prop
  | beginPush {state : Program} (item : MyStruct) :
      state.Running → state.writer = .ready →
      Step self .producer state
        { state with
          writer :=
            .copying item state.queue.getNextToWriteTo fun _ => false
          pushed := state.pushed ++ [item] }
  | copy {state : Program} (item content : MyStruct) (slot : Nat)
      (copied chosen : Fin 3 → Bool) :
      state.Running → state.writer = .copying item slot copied →
      vectorAt state.queue.store slot = .ok content →
      Step self .producer state
        { state with
          queue :=
            state.queue.writeSlot slot
              (MyStruct.copyFields chosen item content)
          writer :=
            .copying item slot fun field => copied field || chosen field }
  | storeWriteIndex {state : Program} (item : MyStruct) (slot : Nat)
      (copied : Fin 3 → Bool) :
      state.Running → state.writer = .copying item slot copied →
      (∀ field, copied field = true) →
      Step self .producer state
        { state with
          queue := state.queue.storeWriteIndex
          writer := .published
          published := state.published + 1 }
  | incrementSize {state : Program} :
      state.Running → state.writer = .published →
      Step self .producer state
        { state with
          queue := state.queue.incrementSize
          writer := .ready
          counted := state.counted + 1 }
  | enter {state : Program} :
      state.reader = .test → state.queue.size ≠ 0 →
      Step self .consumer state { state with reader := .sized }
  | leave {state : Program} :
      state.reader = .test → state.queue.size = 0 →
      Step self .consumer state { state with reader := .done }
  | fetch {state : Program} :
      state.reader = .sized →
      Step self .consumer state
        { state with reader := .fetched state.queue.getNextToRead }
  | storeReadIndex {state : Program} (item : Option Nat) :
      state.reader = .fetched item →
      Step self .consumer state
        { state with
          queue := state.queue.storeReadIndex
          reader := .released item
          released := state.released + 1 }
  | assertHolds {state : Program} (item : Option Nat) :
      state.reader = .released item →
      state.queue.assertStoreSize self = .ok () →
      Step self .consumer state { state with reader := .checked item }
  | assertFails {state : Program} (item : Option Nat) (fault : Fault) :
      state.reader = .released item →
      state.queue.assertStoreSize self = .error fault →
      Step self .consumer state { state with reader := .exited fault }
  | decrementSize {state : Program} (item : Option Nat) :
      state.reader = .checked item →
      Step self .consumer state
        { state with
          queue := state.queue.decrementSize
          reader := .reading item []
          uncounted := state.uncounted + 1 }
  | readField {state : Program} (slot : Nat) (got : List Int32)
      (content : MyStruct) (inside : got.length < 3) :
      state.reader = .reading (some slot) got →
      vectorAt state.queue.store slot = .ok content →
      Step self .consumer state
        { state with
          reader :=
            .reading (some slot) (got ++ [content.d ⟨got.length, inside⟩]) }
  | printLine {state : Program} (item : Option Nat) (got : List Int32) :
      state.reader = .reading item got → got.length = 3 →
      Step self .consumer state
        { state with
          reader := .test
          lines := state.lines ++ [⟨got, state.queue.size⟩] }

def start (capacity : Capacity) (default : MyStruct) : Program where
  queue := make capacity default
  writer := .ready
  reader := .test
  pushed := []
  published := 0
  counted := 0
  released := 0
  uncounted := 0
  lines := []

/-- All interleavings of the two threads. -/
def machine (self : Nat) (capacity : Capacity) (default : MyStruct) :
    Machine Program Thread where
  start := start capacity default
  step := Step self

/-- At most `bound` elements are unread, from the start of their push. -/
def UnreadAtMost (bound : Nat) (state : Program) : Prop :=
  state.pushed.length ≤ state.released + bound

/-! ## The invariant of the bounded interleavings -/

/-- The writer's stores so far, and the fields copied, by its position. -/
def WriterCounts (capacity : Capacity) (state : Program) : Prop :=
  match state.writer with
  | .ready =>
      state.pushed.length = state.published ∧
        state.published = state.counted
  | .copying item slot copied =>
      state.pushed.length = state.published + 1 ∧
        state.published = state.counted ∧
        state.pushed[state.published]? = some item ∧
        slot = state.published % capacity.size ∧
        ∃ content, state.queue.store[slot]? = some content ∧
          ∀ field, copied field = true → content.d field = item.d field
  | .published =>
      state.pushed.length = state.published ∧
        state.published = state.counted + 1

/-- The reader's stores and reads so far, by its position.  The iteration that
prints line `k` works on the `k`-th element. -/
def ReaderCounts (capacity : Capacity) (state : Program) : Prop :=
  match state.reader with
  | .test =>
      state.released = state.uncounted ∧
        state.lines.length = state.released
  | .done =>
      state.released = state.uncounted ∧
        state.lines.length = state.released
  | .sized =>
      state.released = state.uncounted ∧
        state.lines.length = state.released ∧
        state.uncounted < state.counted
  | .fetched item =>
      state.released = state.uncounted ∧
        state.lines.length = state.released ∧
        state.uncounted < state.counted ∧
        item = some (state.lines.length % capacity.size)
  | .released item =>
      state.released = state.uncounted + 1 ∧
        state.lines.length = state.uncounted ∧
        state.uncounted < state.counted ∧
        item = some (state.lines.length % capacity.size)
  | .checked item =>
      state.released = state.uncounted + 1 ∧
        state.lines.length = state.uncounted ∧
        state.uncounted < state.counted ∧
        item = some (state.lines.length % capacity.size)
  | .reading item got =>
      state.released = state.uncounted ∧
        state.released = state.lines.length + 1 ∧
        item = some (state.lines.length % capacity.size) ∧
        ∃ held, state.pushed[state.lines.length]? = some held ∧
          got = held.fields.take got.length
  | .exited _ => False

/-- Line `k` shows the `k`-th struct. -/
def LinesRight (state : Program) : Prop :=
  ∀ (k : Nat) (line : Line), state.lines[k]? = some line →
    ∃ held, state.pushed[k]? = some held ∧ line.got = held.fields

/-- What holds in every state of a bounded run.  The finished copies are those
of the published elements. -/
structure Consistent (capacity : Capacity) (state : Program) : Prop where
  tracks :
    Tracks capacity state.queue (state.pushed.take state.published)
      state.pushed.length state.published state.released
      (state.counted - state.uncounted)
  countOrder : state.uncounted ≤ state.counted
  indexOrder : state.released ≤ state.published
  writer : state.WriterCounts capacity
  reader : state.ReaderCounts capacity
  lines : state.LinesRight

section Preservation

variable {self : Nat} {capacity : Capacity} {default : MyStruct}
  {state : Program}

theorem consistent_start :
    (start capacity default).Consistent capacity where
  tracks := tracks_make capacity default
  countOrder := Nat.le_refl 0
  indexOrder := Nat.le_refl 0
  writer := ⟨rfl, rfl⟩
  reader := ⟨rfl, rfl⟩
  lines := nofun

theorem Consistent.writer_bounds
    (consistent : state.Consistent capacity) :
    state.published ≤ state.pushed.length ∧
      state.pushed.length ≤ state.published + 1 ∧
      state.counted ≤ state.published ∧
      state.published ≤ state.counted + 1 := by
  have writer := consistent.writer
  rw [WriterCounts] at writer
  cases stage : state.writer <;>
    simp only [stage] at writer <;> omega

theorem Consistent.length_take
    (consistent : state.Consistent capacity) :
    (state.pushed.take state.published).length = state.published := by
  have bounds := consistent.writer_bounds
  rw [List.length_take]
  omega

/-- A published element that is not lapped is in its slot. -/
theorem Consistent.slot_holds
    (consistent : state.Consistent capacity) {position : Nat}
    (before : position < state.published)
    (recent : state.pushed.length ≤ position + capacity.size) :
    state.queue.store[position % capacity.size]? =
      state.pushed[position]? := by
  have length := consistent.length_take
  rw [consistent.tracks.slot_value (by omega) recent,
    List.getElem?_take_of_lt before]

theorem Consistent.size_ne_zero_iff
    (consistent : state.Consistent capacity)
    (bounded : state.UnreadAtMost (capacity.size - 1))
    (released : state.released ≤ state.uncounted + 1) :
    state.queue.storeSize ≠ 0 ↔ state.uncounted < state.counted := by
  have bounds := consistent.writer_bounds
  have fits := capacity.fits
  rw [UnreadAtMost] at bounded
  have small : state.counted - state.uncounted < 2 ^ 64 := by omega
  rw [consistent.tracks.storeSize, Ne,
    Library.counter_eq_zero_iff_of_lt small]
  omega

/-- A counted element is there to be fetched: with one slot unused the two
notions of emptiness agree while the consumer is between its pops. -/
theorem Consistent.fetches
    (consistent : state.Consistent capacity)
    (bounded : state.UnreadAtMost (capacity.size - 1))
    (between : state.released = state.uncounted)
    (counted : state.uncounted < state.counted) :
    state.queue.getNextToRead =
      some (state.released % capacity.size) := by
  have bounds := consistent.writer_bounds
  have positive := capacity.positive
  rw [UnreadAtMost] at bounded
  refine
    (consistent.tracks.getNextToRead_eq_some_iff
      consistent.indexOrder).mpr ⟨rfl, ?_⟩
  intro laps
  have none : state.published - state.released = 0 :=
    Nat.eq_zero_of_dvd_of_lt laps (by omega)
  omega

/-- The pointer held in the `k`-th iteration is the slot of the `k`-th
element. -/
theorem Consistent.item_eq
    (consistent : state.Consistent capacity) {item : Option Nat}
    (holding : state.reader.item = some item) :
    item = some (state.lines.length % capacity.size) := by
  have reader := consistent.reader
  rw [ReaderCounts] at reader
  cases stage : state.reader with
  | fetched pointer | released pointer | checked pointer =>
      simp only [stage, Reader.item, Option.some.injEq] at reader holding
      obtain ⟨_, _, _, place⟩ := reader
      rw [← holding]
      exact place
  | reading pointer got =>
      simp only [stage, Reader.item, Option.some.injEq] at reader holding
      obtain ⟨_, _, place, _⟩ := reader
      rw [← holding]
      exact place
  | test | sized | done | exited fault =>
      simp [stage, Reader.item] at holding

/-- The reader is not disturbed by the writer's stores. -/
private theorem ReaderCounts.of_writer_step
    {before after : Program} (counts : before.ReaderCounts capacity)
    (sameReader : after.reader = before.reader)
    (sameReleased : after.released = before.released)
    (sameUncounted : after.uncounted = before.uncounted)
    (sameLines : after.lines = before.lines)
    (counted : before.counted ≤ after.counted)
    (more : List MyStruct) (pushed : after.pushed = before.pushed ++ more) :
    after.ReaderCounts capacity := by
  unfold ReaderCounts at counts ⊢
  rw [sameReader, sameReleased, sameUncounted, sameLines, pushed]
  cases stage : before.reader with
  | test | done =>
      simpa only [stage] using counts
  | exited fault =>
      simp only [stage] at counts
  | sized =>
      simp only [stage] at counts ⊢
      omega
  | fetched item | released item | checked item =>
      simp only [stage] at counts ⊢
      obtain ⟨popped, printed, inSize, place⟩ := counts
      exact ⟨popped, printed, by omega, place⟩
  | reading item got =>
      simp only [stage] at counts ⊢
      obtain ⟨popped, printed, place, held, found, fields⟩ := counts
      exact
        ⟨popped, printed, place, held,
          getElem?_of_prefix (List.prefix_append _ more) found, fields⟩

private theorem LinesRight.of_writer_step
    {before after : Program} (right : before.LinesRight)
    (sameLines : after.lines = before.lines)
    (more : List MyStruct) (pushed : after.pushed = before.pushed ++ more) :
    after.LinesRight := by
  intro k line printed
  rw [sameLines] at printed
  obtain ⟨held, found, fields⟩ := right k line printed
  rw [pushed]
  exact ⟨held, getElem?_of_prefix (List.prefix_append _ more) found, fields⟩

/-- The writer's steps: the copy in progress stays in its own slot. -/
theorem Consistent.writer_step
    {before after : Program} (consistent : before.Consistent capacity)
    (step : Step self .producer before after) :
    after.Consistent capacity := by
  have tracks := consistent.tracks
  have length := consistent.length_take
  have writer := consistent.writer
  have reader := consistent.reader
  have countOrder := consistent.countOrder
  have indexOrder := consistent.indexOrder
  cases step with
  | beginPush item running stage =>
      simp only [WriterCounts, stage] at writer
      obtain ⟨begun, counted⟩ := writer
      have sameTake :
          (before.pushed ++ [item]).take before.published =
            before.pushed.take before.published :=
        List.take_append_of_le_length (by omega)
      obtain ⟨content, found⟩ :
          ∃ content,
            before.queue.store[before.queue.getNextToWriteTo]? =
              some content := by
        rw [getNextToWriteTo, tracks.writeIndex]
        exact
          ⟨_, List.getElem?_eq_getElem
            (tracks.slot_inside before.published)⟩
      exact
        { tracks := by
            simp only [sameTake, List.length_append]
            exact tracks.begin (Nat.le_succ _)
          countOrder := countOrder
          indexOrder := indexOrder
          writer := by
            simp only [WriterCounts, List.length_append,
              List.length_singleton]
            refine
              ⟨by omega, counted, ?_, tracks.writeIndex, content, found,
                fun _ done => absurd done Bool.false_ne_true⟩
            rw [← begun]
            exact List.getElem?_concat_length
          reader :=
            reader.of_writer_step rfl rfl rfl rfl (Nat.le_refl _)
              [item] rfl
          lines := consistent.lines.of_writer_step rfl [item] rfl }
  | copy item content slot copied chosen running stage loads =>
      simp only [WriterCounts, stage] at writer
      obtain ⟨begun, counted, current, place, old, found, inPlace⟩ :=
        writer
      have loaded := vectorAt_eq_ok_iff.mp loads
      have sameContent : old = content :=
        Option.some.inj (found.symm.trans loaded)
      subst sameContent
      have sameLog :
          before.pushed.length =
            (before.pushed.take before.published).length + 1 := by
        omega
      rw [sameLog] at tracks
      have overwritten :=
        tracks.overwrite (MyStruct.copyFields chosen item old)
      rw [← sameLog, length, ← place] at overwritten
      exact
        { tracks := overwritten
          countOrder := countOrder
          indexOrder := indexOrder
          writer := by
            have inside : slot < before.queue.store.length :=
              (List.getElem?_eq_some_iff.mp loaded).1
            simp only [WriterCounts]
            refine
              ⟨begun, counted, current, place,
                MyStruct.copyFields chosen item old,
                List.getElem?_set_self inside, ?_⟩
            intro field done
            cases picked : chosen field with
            | true =>
                simp [MyStruct.copyFields, picked]
            | false =>
                simp only [picked, Bool.or_false] at done
                simpa [MyStruct.copyFields, picked]
                  using inPlace field done
          reader :=
            reader.of_writer_step rfl rfl rfl rfl (Nat.le_refl _) []
              (List.append_nil _).symm
          lines :=
            consistent.lines.of_writer_step rfl []
              (List.append_nil _).symm }
  | storeWriteIndex item slot copied running stage complete =>
      simp only [WriterCounts, stage] at writer
      obtain ⟨begun, counted, current, place, content, found, inPlace⟩ :=
        writer
      -- every field is copied, so the slot holds the item itself
      have same : content = item :=
        MyStruct.eq_of_fields_eq fun field =>
          inPlace field (complete field)
      subst same
      have sameLog :
          before.pushed.length =
            (before.pushed.take before.published).length + 1 := by
        omega
      rw [sameLog] at tracks
      rw [← length] at place
      rw [place] at found
      have finished := (tracks.finish found).storeWriteIndex
      have sameTake :
          before.pushed.take (before.published + 1) =
            before.pushed.take before.published ++ [content] := by
        rw [List.take_add_one, current]
        rfl
      rw [← sameLog, ← sameTake] at finished
      exact
        { tracks := finished
          countOrder := countOrder
          indexOrder := Nat.le_succ_of_le indexOrder
          writer := by
            simp only [WriterCounts]
            exact ⟨begun, by omega⟩
          reader :=
            reader.of_writer_step rfl rfl rfl rfl (Nat.le_refl _) []
              (List.append_nil _).symm
          lines :=
            consistent.lines.of_writer_step rfl []
              (List.append_nil _).symm }
  | incrementSize running stage =>
      simp only [WriterCounts, stage] at writer
      obtain ⟨begun, counted⟩ := writer
      have incremented := tracks.incrementSize
      rw [← Nat.sub_add_comm countOrder] at incremented
      exact
        { tracks := incremented
          countOrder := Nat.le_succ_of_le countOrder
          indexOrder := indexOrder
          writer := ⟨begun, counted⟩
          reader :=
            reader.of_writer_step rfl rfl rfl rfl (Nat.le_succ _) []
              (List.append_nil _).symm
          lines :=
            consistent.lines.of_writer_step rfl []
              (List.append_nil _).symm }

/-- The reader's steps: what it reads is in the slot it gave back last. -/
theorem Consistent.reader_step
    {before after : Program} (consistent : before.Consistent capacity)
    (bounded : before.UnreadAtMost (capacity.size - 1))
    (step : Step self .consumer before after) :
    after.Consistent capacity := by
  have tracks := consistent.tracks
  have bounds := consistent.writer_bounds
  have reader := consistent.reader
  have lines := consistent.lines
  have countOrder := consistent.countOrder
  have indexOrder := consistent.indexOrder
  have writer := consistent.writer
  have positive := capacity.positive
  cases step with
  | enter stage nonzero =>
      simp only [ReaderCounts, stage] at reader
      obtain ⟨popped, printed⟩ := reader
      have counted :=
        (consistent.size_ne_zero_iff bounded (by omega)).mp nonzero
      exact
        ⟨tracks, countOrder, indexOrder, writer,
          ⟨popped, printed, counted⟩, lines⟩
  | leave stage zero =>
      simp only [ReaderCounts, stage] at reader
      exact
        ⟨tracks, countOrder, indexOrder, writer, reader, lines⟩
  | fetch stage =>
      simp only [ReaderCounts, stage] at reader
      obtain ⟨popped, printed, counted⟩ := reader
      have fetched := consistent.fetches bounded popped counted
      rw [← printed] at fetched
      exact
        ⟨tracks, countOrder, indexOrder, writer,
          ⟨popped, printed, counted, fetched⟩, lines⟩
  | storeReadIndex item stage =>
      simp only [ReaderCounts, stage] at reader
      obtain ⟨popped, printed, counted, place⟩ := reader
      exact
        { tracks := tracks.storeReadIndex
          countOrder := countOrder
          indexOrder := by
            simp only
            omega
          writer := writer
          reader :=
            ⟨congrArg (· + 1) popped, printed.trans popped, counted,
              place⟩
          lines := lines }
  | assertHolds item stage holds =>
      simp only [ReaderCounts, stage] at reader
      exact
        ⟨tracks, countOrder, indexOrder, writer, reader, lines⟩
  | assertFails item fault stage fails =>
      simp only [ReaderCounts, stage] at reader
      obtain ⟨popped, _, counted, _⟩ := reader
      have nonzero :=
        (consistent.size_ne_zero_iff bounded (by omega)).mpr counted
      rw [(assertStoreSize_eq_ok_iff _ _).mpr nonzero] at fails
      cases fails
  | decrementSize item stage =>
      simp only [ReaderCounts, stage] at reader
      obtain ⟨popped, printed, counted, place⟩ := reader
      have decremented := tracks.decrementSize (by omega)
      rw [Nat.sub_sub] at decremented
      have inside : before.lines.length < before.pushed.length := by
        omega
      exact
        { tracks := decremented
          countOrder := counted
          indexOrder := indexOrder
          writer := writer
          reader :=
            ⟨popped, by simp only; omega, place,
              before.pushed[before.lines.length],
              List.getElem?_eq_getElem inside, rfl⟩
          lines := lines }
  | readField slot got content inside stage loads =>
      simp only [ReaderCounts, stage] at reader
      obtain ⟨popped, printed, place, held, found, fields⟩ := reader
      -- the slot given back last is not lapped while one slot is unused
      have kept :
          before.queue.store[before.lines.length % capacity.size]? =
            before.pushed[before.lines.length]? := by
        rw [UnreadAtMost] at bounded
        exact consistent.slot_holds (by omega) (by omega)
      have sameContent : content = held := by
        have loaded := vectorAt_eq_ok_iff.mp loads
        rw [Option.some.inj place, kept, found] at loaded
        exact (Option.some.inj loaded).symm
      subst sameContent
      have moreFields :
          got ++ [content.d ⟨got.length, inside⟩] =
            content.fields.take (got.length + 1) := by
        rw [content.fields_take_succ got.length inside, ← fields]
      exact
        { tracks := tracks
          countOrder := countOrder
          indexOrder := indexOrder
          writer := writer
          reader := by
            refine ⟨popped, printed, place, content, found, ?_⟩
            rw [List.length_append, List.length_singleton]
            exact moreFields
          lines := lines }
  | printLine item got stage complete =>
      simp only [ReaderCounts, stage] at reader
      obtain ⟨popped, printed, _, held, found, fields⟩ := reader
      have allFields : got = held.fields := by
        rw [fields, complete]
        rfl
      exact
        { tracks := tracks
          countOrder := countOrder
          indexOrder := indexOrder
          writer := writer
          reader := by
            refine ⟨popped, ?_⟩
            simp only [List.length_append, List.length_singleton]
            omega
          lines := by
            intro k line shown
            simp only [List.getElem?_append] at shown
            split at shown
            · exact lines k line shown
            · rename_i beyond
              obtain ⟨last, same⟩ := List.getElem?_eq_some_iff.mp shown
              simp only [List.length_singleton] at last
              have position : k = before.lines.length := by omega
              subst position
              simp only [Nat.sub_self, List.getElem_cons_zero] at same
              exact ⟨held, found, by rw [← same]; exact allFields⟩ }

theorem consistent_of_reachable
    (reached :
      (machine self capacity default).Reachable
        (Machine.staying (UnreadAtMost (capacity.size - 1))) state) :
    state.Consistent capacity := by
  have initial :
      (start capacity default).UnreadAtMost (capacity.size - 1) :=
    Nat.zero_le _
  apply reached.strong_invariant (Consistent capacity) consistent_start
  intro thread before after reachedBefore consistent step _
  have bounded := reachedBefore.within initial
  cases thread with
  | producer =>
      exact consistent.writer_step step
  | consumer =>
      exact consistent.reader_step bounded step

end Preservation

/-- While one slot stays unused, `consumeFunction` never holds a null pointer,
what it has read in its `k`-th iteration are the first fields of the `k`-th
struct pushed, and its `k`-th line shows all three. -/
theorem consumeFunction_reads
    (self : Nat) (capacity : Capacity) (default : MyStruct)
    (state : Program)
    (reached :
      (machine self capacity default).Reachable
        (Machine.staying (UnreadAtMost (capacity.size - 1))) state) :
    (∀ item, state.reader.item = some item → item ≠ none) ∧
    (∀ item got, state.reader = .reading item got →
      ∃ held, state.pushed[state.lines.length]? = some held ∧
        got <+: held.fields) ∧
    (∀ (k : Nat) (line : Line), state.lines[k]? = some line →
      ∃ held, state.pushed[k]? = some held ∧ line.got = held.fields) := by
  have consistent := consistent_of_reachable reached
  refine ⟨?_, ?_, consistent.lines⟩
  · intro item holding
    rw [consistent.item_eq holding]
    exact Option.some_ne_none _
  · intro item got stage
    have reader := consistent.reader
    simp only [ReaderCounts, stage] at reader
    obtain ⟨_, _, _, held, found, fields⟩ := reader
    refine ⟨held, found, ?_⟩
    rw [fields]
    exact List.take_prefix _ _

/-- A struct copied in two steps and printed, with the next push begun between
the reads of its fields. -/
theorem consumeFunction_reads_sample :
    ∃ state : Program,
      (machine 0 twoSlots ⟨fun _ => 0⟩).Reachable
        (Machine.staying (UnreadAtMost (twoSlots.size - 1))) state ∧
      state.lines.length = 1 ∧
      state.pushed.length = 2 ∧
      (∀ (k : Nat) (line : Line), state.lines[k]? = some line →
        ∃ held, state.pushed[k]? = some held ∧
          line.got = held.fields) := by
  have atStart :
      (machine 0 twoSlots ⟨fun _ => 0⟩).Reachable
        (Machine.staying (UnreadAtMost (twoSlots.size - 1)))
        (start twoSlots ⟨fun _ => 0⟩) :=
    Machine.Reachable.start
  have begun :=
    atStart.next (Step.beginPush ⟨fun _ => 5⟩ nofun rfl) (Nat.le_refl 1)
  have copiedFirst :=
    begun.next
      (Step.copy _ _ _ _ (fun field => field = 0) nofun rfl rfl)
      (Nat.le_refl 1)
  have copiedRest :=
    copiedFirst.next
      (Step.copy _ _ _ _ (fun field => field ≠ 0) nofun rfl rfl)
      (Nat.le_refl 1)
  have published :=
    copiedRest.next
      (Step.storeWriteIndex _ _ _ nofun rfl (by decide))
      (Nat.le_refl 1)
  have counted :=
    published.next (Step.incrementSize nofun rfl) (Nat.le_refl 1)
  have entered :=
    counted.next (Step.enter rfl (by decide)) (Nat.le_refl 1)
  have fetched := entered.next (Step.fetch rfl) (Nat.le_refl 1)
  have released :=
    fetched.next (Step.storeReadIndex _ rfl) (Nat.le_succ 1)
  have asserted :=
    released.next (Step.assertHolds _ rfl rfl) (Nat.le_succ 1)
  have decremented :=
    asserted.next (Step.decrementSize _ rfl) (Nat.le_succ 1)
  have readFirst :=
    decremented.next (Step.readField 0 _ _ (by decide) rfl rfl)
      (Nat.le_succ 1)
  have begunNext :=
    readFirst.next (Step.beginPush ⟨fun _ => 6⟩ nofun rfl)
      (Nat.le_refl 2)
  have readSecond :=
    begunNext.next (Step.readField 0 _ _ (by decide) rfl rfl)
      (Nat.le_refl 2)
  have readThird :=
    readSecond.next (Step.readField 0 _ _ (by decide) rfl rfl)
      (Nat.le_refl 2)
  have printed :=
    readThird.next (Step.printLine _ _ rfl rfl) (Nat.le_refl 2)
  exact
    ⟨_, printed, rfl, rfl,
      (consumeFunction_reads 0 twoSlots _ _ printed).2.2⟩

end Program

end LFQueue

end LowLatencyBlocks
