import LowLatencyBlocks.Library.Machine
import LowLatencyBlocks.LockFreeQueue.Queue

/-!
# The queue in sequential use

Complete pushes and complete pops, one after another, with no bound on how far
the pushes run ahead of the pops.  The queue has no check for being full: a push
into a full queue laps the reader.  What the reader then finds is decided by the
difference of the numbers of pushes and pops, once modulo the capacity and once
modulo `2 ^ 64`.
-/

namespace LowLatencyBlocks

open Library

namespace LFQueue

variable {T : Type}

/-- `*getNextToWriteTo() = value; updateNextToWriteTo();`. -/
def push (queue : LFQueue T) (value : T) : LFQueue T :=
  (queue.writeSlot queue.getNextToWriteTo value).updateNextToWriteTo

/-- Read the element and call `updateReadIndex()`, unless `getNextToRead()` is
`nullptr`, when nothing is done. -/
def pop (queue : LFQueue T) (self : Nat) :
    Except Fault (Option (T × LFQueue T)) :=
  match queue.getNextToRead with
  | none => return none
  | some slot => do
      let value ← vectorAt queue.store slot
      let queue ← queue.updateReadIndex self
      return some (value, queue)

inductive Call (T : Type) where
  | push (value : T)
  | pop
  deriving DecidableEq, Repr

/-- The queue with the values pushed and popped so far. -/
structure Used (T : Type) where
  queue : LFQueue T
  pushed : List T
  popped : List T
  deriving DecidableEq, Repr

namespace Used

def start (capacity : Capacity) (default : T) : Used T where
  queue := make capacity default
  pushed := []
  popped := []

def afterPush (used : Used T) (value : T) : Used T where
  queue := used.queue.push value
  pushed := used.pushed ++ [value]
  popped := used.popped

def afterPop (used : Used T) (queue : LFQueue T) (value : T) : Used T where
  queue := queue
  pushed := used.pushed
  popped := used.popped ++ [value]

/-- One call.  A pop is made only after a non-null `getNextToRead()`; `none`
also stands for a pop that does not return. -/
def step (self : Nat) (used : Used T) : Call T → Option (Used T)
  | .push value => some (used.afterPush value)
  | .pop =>
      match used.queue.pop self with
      | .ok (some (value, queue)) => some (used.afterPop queue value)
      | .ok none => none
      | .error _ => none

/-- How far the pushes are ahead of the pops. -/
def ahead (used : Used T) : Nat :=
  used.pushed.length - used.popped.length

/-- What the counts of pushes and pops say about the queue. -/
structure Counted (capacity : Capacity) (used : Used T) : Prop where
  tracks :
    Tracks capacity used.queue used.pushed used.pushed.length
      used.pushed.length used.popped.length used.ahead
  order : used.popped.length ≤ used.pushed.length

/-- The position, among the pushes, of the value that the next pop finds. -/
def nextPosition (capacity : Capacity) (used : Used T) : Nat :=
  newest capacity.size used.popped.length used.pushed.length

section OneCall

variable {capacity : Capacity} {used : Used T}

theorem ahead_afterPush
    (order : used.popped.length ≤ used.pushed.length) {value : T} :
    (used.afterPush value).ahead = used.ahead + 1 := by
  simp only [ahead, afterPush, List.length_append, List.length_singleton]
  omega

theorem ahead_afterPop {queue : LFQueue T} {value : T} :
    (used.afterPop queue value).ahead = used.ahead - 1 := by
  simp only [ahead, afterPop, List.length_append, List.length_singleton]
  omega

theorem counted_start (capacity : Capacity) (default : T) :
    Counted capacity (start capacity default) where
  tracks := tracks_make capacity default
  order := Nat.le_refl 0

theorem Counted.getNextToRead_eq_none_iff
    (counted : Counted capacity used) :
    used.queue.getNextToRead = none ↔ capacity.size ∣ used.ahead :=
  counted.tracks.getNextToRead_eq_none_iff counted.order

theorem Counted.size_eq_zero_iff
    (counted : Counted capacity used) :
    used.queue.size = 0 ↔ 2 ^ 64 ∣ used.ahead :=
  counted.tracks.storeSize_eq_zero_iff

theorem Counted.popped_lt
    (counted : Counted capacity used)
    (apart : ¬ capacity.size ∣ used.ahead) :
    used.popped.length < used.pushed.length := by
  have order := counted.order
  have positive : used.ahead ≠ 0 := by
    intro zero
    rw [zero] at apart
    exact apart (Nat.dvd_zero _)
  rw [ahead] at positive
  omega

theorem Counted.push
    (counted : Counted capacity used) (value : T) :
    Counted capacity (used.afterPush value) where
  tracks := by
    have pushed :=
      ((counted.tracks.writeSlot value).storeWriteIndex).incrementSize
    rw [ahead_afterPush counted.order, afterPush, List.length_append]
    exact pushed
  order := by
    simp only [afterPush, List.length_append]
    exact Nat.le_trans counted.order (Nat.le_add_right _ _)

/-- The slot that a pop reads holds the newest value written to it. -/
theorem Counted.slot_found
    (counted : Counted capacity used)
    (apart : ¬ capacity.size ∣ used.ahead) :
    used.queue.store[used.popped.length % capacity.size]? =
      used.pushed[used.nextPosition capacity]? := by
  have before := counted.popped_lt apart
  have sameSlot :
      used.nextPosition capacity % capacity.size =
        used.popped.length % capacity.size :=
    newest_mod before
  rw [← sameSlot]
  exact
    counted.tracks.slot_value (newest_lt before)
      (newest_recent capacity.positive)

theorem Counted.pop_of_dvd
    (counted : Counted capacity used) {self : Nat}
    (divides : capacity.size ∣ used.ahead) :
    used.queue.pop self = .ok none := by
  rw [pop, counted.getNextToRead_eq_none_iff.mpr divides]
  rfl

theorem Counted.assertStoreSize
    (counted : Counted capacity used) (self : Nat) :
    used.queue.storeReadIndex.assertStoreSize self =
      if 2 ^ 64 ∣ used.ahead then
        .error (.exit ("Invalid store size: " ++ toString self))
      else
        .ok () := by
  have zero := counted.size_eq_zero_iff
  by_cases wrapped : 2 ^ 64 ∣ used.ahead
  · have empty : used.queue.storeReadIndex.storeSize = 0 :=
      zero.mpr wrapped
    rw [if_pos wrapped, LFQueue.assertStoreSize, empty]
    rfl
  · have inhabited : used.queue.storeReadIndex.storeSize ≠ 0 :=
      fun empty => wrapped (zero.mp empty)
    rw [if_neg wrapped]
    exact (assertStoreSize_eq_ok_iff _ _).mpr inhabited

theorem Counted.pop_of_apart
    (counted : Counted capacity used) (self : Nat)
    (apart : ¬ capacity.size ∣ used.ahead) :
    ∃ value,
      used.pushed[used.nextPosition capacity]? = some value ∧
      used.queue.pop self =
        if 2 ^ 64 ∣ used.ahead then
          .error (.exit ("Invalid store size: " ++ toString self))
        else
          .ok (some (value, used.queue.storeReadIndex.decrementSize)) := by
  have before := counted.popped_lt apart
  have inside : used.nextPosition capacity < used.pushed.length :=
    newest_lt before
  have found := counted.slot_found apart
  rw [List.getElem?_eq_getElem inside] at found
  have pointer :
      used.queue.getNextToRead =
        some (used.popped.length % capacity.size) :=
    (counted.tracks.getNextToRead_eq_some_iff counted.order).mpr
      ⟨rfl, apart⟩
  refine ⟨_, List.getElem?_eq_getElem inside, ?_⟩
  simp only [pop, pointer, vectorAt_eq_ok_iff.mpr found,
    updateReadIndex, counted.assertStoreSize self]
  by_cases wrapped : 2 ^ 64 ∣ used.ahead
  · simp only [if_pos wrapped]
    rfl
  · simp only [if_neg wrapped]
    rfl

theorem Counted.popped
    (counted : Counted capacity used)
    (apart : ¬ capacity.size ∣ used.ahead) (value : T) :
    Counted capacity
      (used.afterPop used.queue.storeReadIndex.decrementSize value) where
  tracks := by
    have positive : 0 < used.ahead :=
      Nat.sub_pos_of_lt (counted.popped_lt apart)
    have released :=
      (counted.tracks.storeReadIndex).decrementSize positive
    rw [ahead_afterPop, afterPop, List.length_append]
    exact released
  order := by
    simp only [afterPop, List.length_append]
    exact counted.popped_lt apart

/-- What one call can do. -/
theorem Counted.step_cases
    (counted : Counted capacity used)
    {self : Nat} {call : Call T} {after : Used T}
    (stepped : step self used call = some after) :
    (∃ value, call = .push value ∧ after = used.afterPush value) ∨
    (call = .pop ∧
      ¬ capacity.size ∣ used.ahead ∧
      ¬ 2 ^ 64 ∣ used.ahead ∧
      ∃ value,
        used.pushed[used.nextPosition capacity]? = some value ∧
        after =
          used.afterPop used.queue.storeReadIndex.decrementSize value) := by
  cases call with
  | push value =>
      exact .inl ⟨value, rfl, (Option.some.inj stepped).symm⟩
  | pop =>
      refine .inr ⟨rfl, ?_⟩
      by_cases apart : capacity.size ∣ used.ahead
      · simp [step, counted.pop_of_dvd apart] at stepped
      · obtain ⟨value, found, popped⟩ :=
          counted.pop_of_apart self apart
        by_cases wrapped : 2 ^ 64 ∣ used.ahead
        · simp only [step, popped, if_pos wrapped] at stepped
          cases stepped
        · simp only [step, popped, if_neg wrapped] at stepped
          exact
            ⟨apart, wrapped, value, found,
              (Option.some.inj stepped).symm⟩

theorem Counted.call
    (counted : Counted capacity used)
    {self : Nat} {call : Call T} {after : Used T}
    (stepped : step self used call = some after) :
    Counted capacity after := by
  obtain ⟨value, _, rfl⟩ | ⟨_, apart, _, value, _, rfl⟩ :=
    counted.step_cases stepped
  · exact counted.push value
  · exact counted.popped apart value

end OneCall

/-! ## Runs -/

/-- The values that the calls push, in order. -/
def pushedBy (calls : List (Call T)) : List T :=
  calls.filterMap fun call =>
    match call with
    | .push value => some value
    | .pop => none

def popsIn (calls : List (Call T)) : Nat :=
  calls.countP fun call =>
    match call with
    | .push _ => false
    | .pop => true

/-- The number of pushes minus the number of pops. -/
def aheadAfter (calls : List (Call T)) : Nat :=
  (pushedBy calls).length - popsIn calls

structure Ran
    (capacity : Capacity) (calls : List (Call T)) (used : Used T) :
    Prop where
  counted : Counted capacity used
  pushed : used.pushed = pushedBy calls
  popped : used.popped.length = popsIn calls
  taken :
    ∃ positions,
      TakenAt capacity.size used.pushed used.popped positions

section Runs

variable {capacity : Capacity} {default : T} {self : Nat}
  {calls : List (Call T)} {used : Used T}

theorem Ran.ahead (ran : Ran capacity calls used) :
    used.ahead = aheadAfter calls := by
  rw [Used.ahead, aheadAfter, ran.pushed, ran.popped]

theorem Ran.call
    (ran : Ran capacity calls used)
    {call : Call T} {after : Used T}
    (stepped : step self used call = some after) :
    Ran capacity (calls ++ [call]) after := by
  have countedAfter := ran.counted.call stepped
  obtain ⟨positions, taken⟩ := ran.taken
  obtain ⟨value, rfl, rfl⟩ | ⟨rfl, apart, _, value, found, rfl⟩ :=
    ran.counted.step_cases stepped
  · refine ⟨countedAfter, ?_, ?_, positions, taken.write value⟩
    · simp only [afterPush, pushedBy, List.filterMap_append, ran.pushed]
      rfl
    · simp only [afterPush, popsIn, List.countP_append, ran.popped]
      rfl
  · refine
      ⟨countedAfter, ?_, ?_, _, taken.take ran.counted.order apart found⟩
    · simp only [afterPop, pushedBy, List.filterMap_append, ran.pushed]
      exact (List.append_nil _).symm
    · simp only [afterPop, popsIn, List.countP_append, List.length_append,
        ran.popped]
      rfl

theorem ran_of_exec
    (executed : exec (step self) calls (start capacity default) =
      some used) :
    Ran capacity calls used :=
  exec_induction (Ran capacity)
    ⟨counted_start capacity default, rfl, rfl, [], TakenAt.empty⟩
    (fun ran stepped => ran.call stepped) executed

/-- When the two notions of emptiness agree, for every run. -/
theorem emptiness_agrees_iff
    (self : Nat) (capacity : Capacity) (default : T)
    (calls : List (Call T)) (used : Used T)
    (executed : exec (step self) calls (start capacity default) =
      some used) :
    (used.queue.getNextToRead = none ↔ used.queue.size = 0) ↔
      (capacity.size ∣ aheadAfter calls ↔ 2 ^ 64 ∣ aheadAfter calls) := by
  have ran := ran_of_exec executed
  rw [ran.counted.getNextToRead_eq_none_iff,
    ran.counted.size_eq_zero_iff, ran.ahead]

theorem emptiness_agrees_sample :
    ((make twoSlots 0).push 7).getNextToRead = none ↔
      ((make twoSlots 0).push 7).size = 0 :=
  (emptiness_agrees_iff 0 twoSlots 0 [.push 7]
    ⟨(make twoSlots 0).push 7, [7], []⟩ rfl).mpr (by decide)

/-- Two pushes fill the two slots: there is nothing to read, and the size is
two. -/
theorem emptiness_disagrees_when_full :
    ∃ used,
      exec (step 0) [.push 1, .push 2] (start twoSlots 0) = some used ∧
      ¬ (used.queue.getNextToRead = none ↔ used.queue.size = 0) := by
  refine ⟨⟨((make twoSlots 0).push 1).push 2, [1, 2], []⟩, rfl, ?_⟩
  decide

/-! ## Draining -/

/-- A pop while the two counts allow one. -/
theorem Counted.pop_returns
    (counted : Counted capacity used) (self : Nat)
    (apart : ¬ capacity.size ∣ used.ahead)
    (notWrapped : ¬ 2 ^ 64 ∣ used.ahead) :
    ∃ value,
      used.pushed[used.nextPosition capacity]? = some value ∧
      step self used .pop =
        some
          (used.afterPop used.queue.storeReadIndex.decrementSize value) := by
  obtain ⟨value, found, popped⟩ :=
    counted.pop_of_apart self apart
  refine ⟨value, found, ?_⟩
  simp only [step, popped, if_neg notWrapped]

/-- The next value to be popped is the oldest of the last
`ahead % capacity` ones. -/
theorem nextPosition_eq
    (order : used.popped.length ≤ used.pushed.length)
    (apart : ¬ capacity.size ∣ used.ahead) :
    used.nextPosition capacity =
      used.pushed.length - used.ahead % capacity.size := by
  have positive : 0 < used.ahead % capacity.size :=
    Nat.pos_of_ne_zero fun zero => apart (Nat.dvd_of_mod_eq_zero zero)
  have shorter :
      (used.ahead - 1) % capacity.size =
        used.ahead % capacity.size - 1 :=
    (Nat.mod_sub_of_le positive).symm
  have bound : used.ahead % capacity.size ≤ used.ahead :=
    Nat.mod_le _ _
  have distance :
      used.pushed.length - 1 - used.popped.length = used.ahead - 1 := by
    rw [ahead]
    omega
  rw [nextPosition, newest, distance, shorter]
  unfold ahead at *
  omega

/-- The first `pops` pops of a drain. -/
theorem Counted.drain
    (counted : Counted capacity used) (self pops : Nat)
    (inside : pops ≤ used.ahead % capacity.size)
    (belowWrap : pops ≤ used.ahead % 2 ^ 64) :
    ∃ drained,
      exec (step self) (List.replicate pops .pop) used = some drained ∧
      Counted capacity drained ∧
      drained.pushed = used.pushed ∧
      drained.popped =
        used.popped ++
          (used.pushed.drop
            (used.pushed.length - used.ahead % capacity.size)).take pops ∧
      drained.ahead = used.ahead - pops := by
  induction pops with
  | zero =>
      exact ⟨used, rfl, counted, rfl, (List.append_nil _).symm, rfl⟩
  | succ pops inductionHypothesis =>
      obtain ⟨before, ranBefore, countedBefore, pushed, popped, ahead⟩ :=
        inductionHypothesis (Nat.le_of_succ_le inside)
          (Nat.le_of_succ_le belowWrap)
      have left :
          before.ahead % capacity.size =
            used.ahead % capacity.size - pops := by
        rw [ahead]
        exact (Nat.mod_sub_of_le (Nat.le_of_succ_le inside)).symm
      have leftWrap :
          before.ahead % 2 ^ 64 = used.ahead % 2 ^ 64 - pops := by
        rw [ahead]
        exact (Nat.mod_sub_of_le (Nat.le_of_succ_le belowWrap)).symm
      have apart : ¬ capacity.size ∣ before.ahead := by
        intro divides
        have := Nat.mod_eq_zero_of_dvd divides
        omega
      have notWrapped : ¬ 2 ^ 64 ∣ before.ahead := by
        intro divides
        have := Nat.mod_eq_zero_of_dvd divides
        omega
      obtain ⟨value, found, stepped⟩ :=
        countedBefore.pop_returns self apart notWrapped
      rw [nextPosition_eq countedBefore.order apart, left, pushed] at found
      refine
        ⟨_, ?_, countedBefore.popped apart value, pushed, ?_, ?_⟩
      · rw [List.replicate_succ', exec_append, ranBefore]
        simp only [Option.bind_some, exec_cons, stepped, exec_nil]
      · have next :
            (used.pushed.drop
              (used.pushed.length - used.ahead % capacity.size))[pops]? =
              some value := by
          have remainder := Nat.mod_le used.ahead capacity.size
          have order : used.ahead ≤ used.pushed.length := Nat.sub_le _ _
          rw [List.getElem?_drop, ← found]
          congr 1
          omega
        simp only [afterPop, popped]
        rw [List.take_add_one, next, Option.toList_some,
          List.append_assoc]
      · rw [ahead_afterPop, ahead]
        omega

/-- Where the size wraps to zero before the indices meet, a drain ends in the
`ASSERT`. -/
theorem Counted.drain_asserts
    (counted : Counted capacity used) (self : Nat)
    (wrapsFirst :
      used.ahead % 2 ^ 64 < used.ahead % capacity.size) :
    ∃ stuck,
      exec (step self) (List.replicate (used.ahead % 2 ^ 64) .pop) used =
          some stuck ∧
        stuck.popped =
          used.popped ++
            (used.pushed.drop
              (used.pushed.length - used.ahead % capacity.size)).take
              (used.ahead % 2 ^ 64) ∧
        stuck.queue.pop self =
          .error (.exit ("Invalid store size: " ++ toString self)) := by
  obtain ⟨stuck, ranDrain, countedStuck, _, delivered, ahead⟩ :=
    counted.drain self _ (Nat.le_of_lt wrapsFirst) (Nat.le_refl _)
  have wrapped : 2 ^ 64 ∣ stuck.ahead := by
    rw [ahead]
    exact Nat.dvd_sub_mod used.ahead
  have apart : ¬ capacity.size ∣ stuck.ahead := by
    intro divides
    have remainder := Nat.mod_eq_zero_of_dvd divides
    rw [ahead, ← Nat.mod_sub_of_le (Nat.le_of_lt wrapsFirst)] at remainder
    omega
  obtain ⟨value, _, popped⟩ :=
    countedStuck.pop_of_apart self apart
  refine ⟨stuck, ranDrain, delivered, ?_⟩
  rw [popped, if_pos wrapped]

/-- What a run delivers, and what a drain after it delivers, when the pushes
have run ahead by any number of laps: the last `ahead % capacity` values, or, if
the size wraps to zero before the indices meet, the first of them, and then the
`ASSERT` fails. -/
theorem overrun_delivery
    (self : Nat) (capacity : Capacity) (default : T)
    (calls : List (Call T)) (used : Used T)
    (executed : exec (step self) calls (start capacity default) =
      some used) :
    (∃ positions : List Nat,
      used.popped.map some =
          positions.map (fun position => (pushedBy calls)[position]?) ∧
        positions.Pairwise (· < ·) ∧
        (∀ index position,
          positions[index]? = some position →
          index ≤ position ∧ capacity.size ∣ position - index) ∧
        (∀ index earlier later,
          positions[index]? = some earlier →
          positions[index + 1]? = some later →
          capacity.size ∣ later - (earlier + 1))) ∧
    (aheadAfter calls % capacity.size ≤ aheadAfter calls % 2 ^ 64 →
      ∃ drained,
        exec (step self)
            (calls ++
              List.replicate (aheadAfter calls % capacity.size) .pop)
            (start capacity default) = some drained ∧
          drained.queue.getNextToRead = none ∧
          drained.popped =
            used.popped ++
              (pushedBy calls).drop
                ((pushedBy calls).length -
                  aheadAfter calls % capacity.size)) ∧
    (aheadAfter calls % 2 ^ 64 < aheadAfter calls % capacity.size →
      ∃ stuck,
        exec (step self)
            (calls ++ List.replicate (aheadAfter calls % 2 ^ 64) .pop)
            (start capacity default) = some stuck ∧
          stuck.popped =
            used.popped ++
              ((pushedBy calls).drop
                ((pushedBy calls).length -
                  aheadAfter calls % capacity.size)).take
                (aheadAfter calls % 2 ^ 64) ∧
          stuck.queue.pop self =
            .error (.exit ("Invalid store size: " ++ toString self))) := by
  have ran := ran_of_exec executed
  refine ⟨?_, ?_, ?_⟩
  · obtain ⟨positions, taken⟩ := ran.taken
    refine ⟨positions, ?_, taken.increasing, taken.laps, ?_⟩
    · rw [← ran.pushed]
      exact taken.values
    · intro index earlier later first second
      exact taken.gap first second
  · intro belowWrap
    rw [← ran.ahead] at belowWrap ⊢
    obtain ⟨drained, ranDrain, countedDrained, _, popped, ahead⟩ :=
      ran.counted.drain self _ (Nat.le_refl _) belowWrap
    refine ⟨drained, ?_, ?_, ?_⟩
    · rw [exec_append, executed]
      exact ranDrain
    · rw [countedDrained.getNextToRead_eq_none_iff, ahead]
      exact Nat.dvd_sub_mod used.ahead
    · have bound : used.ahead % capacity.size ≤ used.pushed.length :=
        Nat.le_trans (Nat.mod_le _ _) (Nat.sub_le _ _)
      rw [popped, ← ran.pushed, List.take_of_length_le]
      rw [List.length_drop]
      omega
  · intro wrapsFirst
    rw [← ran.ahead] at wrapsFirst ⊢
    obtain ⟨stuck, ranDrain, popped, asserted⟩ :=
      ran.counted.drain_asserts self wrapsFirst
    refine ⟨stuck, ?_, ?_, asserted⟩
    · rw [exec_append, executed]
      exact ranDrain
    · rw [popped, ran.pushed]

/-- Five pushes lap the two slots twice; the drain delivers the last one. -/
theorem overrun_delivery_sample :
    ∃ drained,
      exec (step 0) [.push 1, .push 2, .push 3, .push 4, .push 5, .pop]
          (start twoSlots 0) = some drained ∧
        drained.queue.getNextToRead = none ∧
        drained.popped = [5] :=
  (overrun_delivery 0 twoSlots 0
    [.push 1, .push 2, .push 3, .push 4, .push 5]
    ⟨((((((make twoSlots 0).push 1).push 2).push 3).push 4).push 5),
      [1, 2, 3, 4, 5], []⟩ rfl).2.1 (by decide)

theorem exec_pushes (self : Nat) (value : T) (count : Nat)
    (used : Used T) :
    ∃ after,
      exec (step self) (List.replicate count (.push value)) used =
        some after := by
  induction count generalizing used with
  | zero =>
      exact ⟨used, rfl⟩
  | succ count inductionHypothesis =>
      obtain ⟨after, ran⟩ := inductionHypothesis (used.afterPush value)
      exact ⟨after, ran⟩

theorem aheadAfter_pushes (value : T) (count : Nat) :
    aheadAfter (List.replicate count (.push value)) = count := by
  have pushed :
      pushedBy (List.replicate count (Call.push value)) =
        List.replicate count value := by
    rw [pushedBy, List.filterMap_replicate]
  have popped : popsIn (List.replicate count (Call.push value)) = 0 := by
    rw [popsIn, List.countP_replicate]
    rfl
  rw [aheadAfter, pushed, popped, List.length_replicate]
  rfl

end Runs

/-- The capacity of the run whose size wraps: three does not divide
`2 ^ 64`. -/
def threeSlots : Capacity :=
  ⟨3, by decide, by decide⟩

/-- After `2 ^ 64` pushes into three slots one value is left to drain, but the
size is zero and the pop ends in the `ASSERT`. -/
theorem overrun_drain_asserts :
    aheadAfter (List.replicate (2 ^ 64) (Call.push 0)) % 3 = 1 ∧
      ∃ used,
        exec (step 0) (List.replicate (2 ^ 64) (.push 0))
            (start threeSlots 0) = some used ∧
          used.queue.pop 0 =
            .error (.exit ("Invalid store size: " ++ toString 0)) := by
  have ahead := aheadAfter_pushes 0 (2 ^ 64)
  refine ⟨by rw [ahead]; decide, ?_⟩
  obtain ⟨used, executed⟩ :=
    exec_pushes 0 0 (2 ^ 64) (start threeSlots 0)
  have ran := ran_of_exec executed
  have usedAhead : used.ahead = 2 ^ 64 := ran.ahead.trans ahead
  obtain ⟨stuck, ranDrain, _, asserted⟩ :=
    ran.counted.drain_asserts 0
      (by rw [usedAhead, threeSlots]; decide)
  rw [usedAhead, Nat.mod_self] at ranDrain
  cases ranDrain
  exact ⟨used, executed, asserted⟩

end Used

end LFQueue

end LowLatencyBlocks
