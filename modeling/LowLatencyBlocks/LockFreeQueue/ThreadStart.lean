import LowLatencyBlocks.Library.Progress
import LowLatencyBlocks.LockFreeQueue.ThreadUtils

/-!
# What `createAndStartThread` reports

The value returned and what the new thread does agree in every interleaving: a
thread that is returned calls its function, and `nullptr` is returned for one
that could not set its affinity and is finished.  And the creating thread always
can return: its loop loads `running` and `failed` one after the other, but
neither of them is ever reset.
-/

namespace LowLatencyBlocks

open Library

namespace ThreadUtils

namespace Body

/-- It has to set its affinity, or could not. -/
def pins : Body → Bool
  | .setThreadCore => true
  | .printName failing => failing
  | .printCoreId failing => failing
  | .storeFailed => true
  | .finished failing => failing
  | _ => false

/-- How far it is from storing one of the flags. -/
def rank : Body → Nat
  | .notStarted => 6
  | .testCoreId => 5
  | .setThreadCore => 4
  | .printName _ => 3
  | .printCoreId _ => 2
  | .storeFailed => 1
  | .storeRunning => 1
  | _ => 0

theorem stored_of_rank_eq_zero {body : Body} (nothingLeft : body.rank = 0) :
    body.storedRunning = true ∨ body.storedFailed = true := by
  cases body with
  | notStarted | testCoreId | setThreadCore | printName _ | printCoreId _
  | storeFailed | storeRunning =>
      cases nothingLeft
  | forwardFunc | forwardArgs _ | calling =>
      exact Or.inl rfl
  | finished failing =>
      cases failing with
      | false =>
          exact Or.inl rfl
      | true =>
          exact Or.inr rfl

end Body

/-- How far the creating thread is from its return, once a flag is stored.  When
it is `running`, a thread that is about to load `failed` sleeps once more. -/
def Creator.rank (running : Bool) : Creator → Nat
  | .starting => 7
  | .loadFailed => if running then 6 else 3
  | .sleeping => 5
  | .loadRunning => 4
  | .testFailed => 2
  | .joining => 1
  | .returned _ => 0

theorem Creator.rank_le (running : Bool) (creator : Creator) :
    creator.rank running ≤ 7 := by
  cases running <;> cases creator <;> simp [rank]

namespace Handshake

/-- What holds after every step. -/
structure Begun (coreId : Int) (state : Handshake) : Prop where
  consistent : state.Consistent
  started : state.body = .notStarted → state.creator = .starting
  /-- Only a thread with a core to be pinned to can fail. -/
  pinned : state.body.pins = true → 0 ≤ coreId

section Steps

variable {coreId : Int} {arguments : Nat} {before after state : Handshake}

theorem begun_start : start.Begun coreId := by
  refine ⟨consistent_start, fun _ => rfl, ?_⟩
  intro pins
  cases pins

theorem BodyStep.started
    (step : BodyStep coreId arguments before after) :
    after.body ≠ .notStarted := by
  cases step with
  | testCoreId stands =>
      by_cases hasCore : 0 ≤ coreId <;> simp [hasCore]
  | printCoreId failing stands =>
      cases failing <;> simp
  | setThreadCore _ stands | printName _ stands | forwardFunc stands
  | forwardArg _ _ stands _ | call stands | finish stands
  | storeFailed stands | storeRunning stands =>
      simp
  | use capture stands _ =>
      change before.body ≠ .notStarted
      rw [stands]
      simp

theorem BodyStep.pins
    (step : BodyStep coreId arguments before after)
    (pinned : before.body.pins = true → 0 ≤ coreId)
    (pins : after.body.pins = true) : 0 ≤ coreId := by
  cases step with
  | testCoreId stands =>
      by_contra noCore
      rw [if_neg noCore] at pins
      cases pins
  | setThreadCore _ stands =>
      rw [stands] at pinned
      exact pinned rfl
  | printName failing stands =>
      rw [stands] at pinned
      exact pinned pins
  | printCoreId failing stands =>
      rw [stands] at pinned
      cases failing with
      | true =>
          exact pinned rfl
      | false =>
          cases pins
  | storeFailed stands =>
      rw [stands] at pinned
      exact pinned rfl
  | storeRunning stands | forwardFunc stands | forwardArg _ _ stands _
  | call stands | finish stands =>
      cases pins
  | use _ _ _ =>
      exact pinned pins

/-- Starting the thread apart, the creating thread leaves the new one alone. -/
theorem CreatorStep.body_cases (step : CreatorStep before after) :
    after.body = .testCoreId ∨
      before.creator ≠ .starting ∧ after.body = before.body := by
  cases step with
  | startThread stands =>
      exact Or.inl rfl
  | loadRunning stands | loadFailed stands | wake stands | testFailed stands
  | join _ stands _ =>
      refine Or.inr ⟨?_, rfl⟩
      rw [stands]
      simp

theorem Begun.step
    {party : Party} (begun : before.Begun coreId)
    (step : Step coreId arguments party before after) :
    after.Begun coreId := by
  cases party with
  | creator =>
      refine ⟨begun.consistent.creator_step step, ?_, ?_⟩
      · intro notStarted
        rcases CreatorStep.body_cases step with started | ⟨moved, same⟩
        · rw [started] at notStarted
          cases notStarted
        · rw [same] at notStarted
          exact absurd (begun.started notStarted) moved
      · intro pins
        rcases CreatorStep.body_cases step with started | ⟨_, same⟩
        · rw [started] at pins
          cases pins
        · rw [same] at pins
          exact begun.pinned pins
  | created =>
      refine ⟨begun.consistent.body_step step, ?_, ?_⟩
      · intro notStarted
        exact absurd notStarted (BodyStep.started step)
      · intro pins
        exact BodyStep.pins step begun.pinned pins

theorem begun_of_reachable
    (reached : (machine coreId arguments).Reachable Machine.anyStep state) :
    state.Begun coreId :=
  reached.invariant (fun state => state.Begun coreId) begun_start
    fun begun step _ => begun.step step

/-! ## The way to the return -/

/-- A thread that has stored no flag can go on to that. -/
theorem exists_body_step
    (left : 0 < state.body.rank) (started : state.body ≠ .notStarted) :
    ∃ after,
      BodyStep coreId arguments state after ∧
        after.body.rank < state.body.rank := by
  cases stands : state.body with
  | notStarted =>
      exact absurd stands started
  | testCoreId =>
      refine ⟨_, .testCoreId stands, ?_⟩
      by_cases hasCore : 0 ≤ coreId <;> simp [hasCore, Body.rank]
  | setThreadCore =>
      exact ⟨_, .setThreadCore true stands, Nat.lt_succ_self 3⟩
  | printName failing =>
      exact ⟨_, .printName failing stands, Nat.lt_succ_self 2⟩
  | printCoreId failing =>
      refine ⟨_, .printCoreId failing stands, ?_⟩
      cases failing <;> exact Nat.lt_succ_self 1
  | storeFailed =>
      exact ⟨_, .storeFailed stands, Nat.lt_succ_self 0⟩
  | storeRunning =>
      exact ⟨_, .storeRunning stands, Nat.lt_succ_self 0⟩
  | forwardFunc | forwardArgs _ | calling | finished _ =>
      rw [stands] at left
      cases left

/-- Once a flag is stored the creating thread gets nearer to its return with
every step. -/
theorem exists_creator_step
    (consistent : state.Consistent)
    (stored : state.running = true ∨ state.failed = true)
    (started : state.creator ≠ .starting)
    (waiting : state.creator.hasReturned = false) :
    ∃ after,
      CreatorStep state after ∧ after.body = state.body ∧
        after.creator.rank after.running <
          state.creator.rank state.running := by
  cases stands : state.creator with
  | starting =>
      exact absurd stands started
  | loadRunning =>
      refine ⟨_, .loadRunning stands, rfl, ?_⟩
      cases running : state.running <;> simp [Creator.rank]
  | loadFailed =>
      refine ⟨_, .loadFailed stands, rfl, ?_⟩
      cases running : state.running with
      | true =>
          cases failed : state.failed <;> simp [Creator.rank]
      | false =>
          -- then it is `failed` that is stored
          have failed : state.failed = true := by
            rw [running] at stored
            exact stored.resolve_left (by simp)
          simp [failed, Creator.rank]
  | sleeping =>
      exact ⟨_, .wake stands, rfl, Nat.lt_succ_self 4⟩
  | testFailed =>
      refine ⟨_, .testFailed stands, rfl, ?_⟩
      cases failed : state.failed <;> simp [Creator.rank]
  | joining =>
      have failed := consistent.joining stands
      rw [consistent.failed] at failed
      cases body : state.body with
      | finished failing =>
          exact ⟨_, .join failing stands body, body, Nat.lt_succ_self 0⟩
      | _ =>
          rw [body] at failed
          cases failed
  | returned thread =>
      rw [stands] at waiting
      cases waiting

/-- The steps that are still needed for the return; storing a flag may send the
creating thread through its loop once more. -/
def distance (state : Handshake) : Nat :=
  8 * state.body.rank + state.creator.rank state.running

theorem Begun.progress
    (begun : state.Begun coreId)
    (waiting : ¬ state.creator.hasReturned = true) :
    ∃ party after,
      Step coreId arguments party state after ∧
        after.distance < state.distance := by
  by_cases atStart : state.creator = .starting
  · have body := begun.consistent.starting atStart
    refine ⟨.creator, _, CreatorStep.startThread atStart, ?_⟩
    simp [distance, body, atStart, Body.rank, Creator.rank]
  · rcases Nat.eq_zero_or_pos state.body.rank with none | left
    · have stored :
          state.running = true ∨ state.failed = true := by
        rw [begun.consistent.running, begun.consistent.failed]
        exact Body.stored_of_rank_eq_zero none
      rw [Bool.not_eq_true] at waiting
      obtain ⟨after, step, sameBody, lower⟩ :=
        exists_creator_step begun.consistent stored atStart waiting
      refine ⟨.creator, after, step, ?_⟩
      rw [distance, distance, sameBody]
      omega
    · have started : state.body ≠ .notStarted :=
        fun notStarted => atStart (begun.started notStarted)
      obtain ⟨after, step, lower⟩ :=
        @exists_body_step coreId arguments state left started
      refine ⟨.created, after, step, ?_⟩
      have bounded := Creator.rank_le after.running after.creator
      rw [distance, distance]
      omega

end Steps

/-! ## The value returned -/

section Runs

variable {coreId : Int} {arguments : Nat} {before after state : Handshake}

theorem Step.keeps_running
    {party : Party} (step : Step coreId arguments party before after)
    (running : before.running = true) : after.running = true := by
  cases party with
  | creator =>
      cases step <;> exact running
  | created =>
      exact BodyStep.keeps_running step running

theorem Step.keeps_returned
    {party : Party} {thread : Bool}
    (step : Step coreId arguments party before after)
    (returned : before.creator = .returned thread) :
    after.creator = .returned thread := by
  cases party with
  | creator =>
      cases step with
      | startThread stands | loadRunning stands | loadFailed stands
      | wake stands | testFailed stands | join _ stands _ =>
          rw [returned] at stands
          cases stands
  | created =>
      rw [BodyStep.creator step]
      exact returned

/-- A stored `running` is never reset. -/
theorem running_of_leads
    (run :
      (machine coreId arguments).Leads Machine.anyStep before after)
    (running : before.running = true) : after.running = true := by
  apply run.invariant (fun state => state.running = true) _ running
  intro party before after running step _
  exact Step.keeps_running step running

/-- A thread that is returned has gone on to its function. -/
theorem Begun.thread_returned
    (begun : state.Begun coreId)
    (reached : (machine coreId arguments).Reachable Machine.anyStep state)
    (returned : state.creator = .returned true) {later : Handshake}
    (run : (machine coreId arguments).Leads Machine.anyStep state later) :
    later.creator = .returned true ∧ later.body.storedRunning = true := by
  have returnedLater : later.creator = .returned true := by
    apply
      run.invariant (fun state => state.creator = .returned true) _ returned
    intro party before after returned step _
    exact Step.keeps_returned step returned
  have running :=
    running_of_leads run (begun.consistent.returnedThread returned)
  have consistent := (begun_of_reachable (reached.leads run)).consistent
  rw [consistent.running] at running
  exact ⟨returnedLater, running⟩

/-- A thread for which `nullptr` is returned has never gone to its function. -/
theorem Begun.null_returned
    (begun : state.Begun coreId)
    (returned : state.creator = .returned false) {earlier : Handshake}
    (reached : (machine coreId arguments).Reachable Machine.anyStep earlier)
    (run : (machine coreId arguments).Leads Machine.anyStep earlier state) :
    earlier.body.storedRunning = false := by
  have finished := begun.consistent.returnedNull returned
  have consistent := (begun_of_reachable reached).consistent
  rw [← consistent.running]
  cases running : earlier.running with
  | false =>
      rfl
  | true =>
      -- it would still be stored
      have stillRunning := running_of_leads run running
      rw [begun.consistent.running, finished] at stillRunning
      cases stillRunning

theorem Begun.returns (begun : state.Begun coreId) :
    ∃ final,
      (machine coreId arguments).Leads Machine.anyStep state final ∧
        final.creator.hasReturned = true := by
  have returns :
      ∃ final,
        (machine coreId arguments).Leads Machine.anyStep state final ∧
          final.Begun coreId ∧ final.creator.hasReturned = true := by
    apply
      Machine.leads_of_measure
        (fun state : Handshake => state.Begun coreId)
        (fun state => state.creator.hasReturned = true) distance _ begun
    intro state begun waiting
    obtain ⟨party, next, step, lower⟩ :=
      @Begun.progress coreId arguments state begun waiting
    exact ⟨party, next, step, trivial, begun.step step, lower⟩
  obtain ⟨final, run, _, returned⟩ := returns
  exact ⟨final, run, returned⟩

/-- In every interleaving: when the thread is returned, it has stored `running`
and goes on to its function, and the value stays; when `nullptr` is returned, a
core was asked for, and the new thread is finished without ever having gone to
its function.  And the creating thread can return from every state. -/
theorem createAndStartThread_outcome
    (coreId : Int) (arguments : Nat) (state : Handshake)
    (reached : (machine coreId arguments).Reachable Machine.anyStep state) :
    (state.creator = .returned true →
      ∀ later,
        (machine coreId arguments).Leads Machine.anyStep state later →
        later.creator = .returned true ∧
          later.body.storedRunning = true) ∧
    (state.creator = .returned false →
      0 ≤ coreId ∧ state.body = .finished true ∧
        ∀ earlier,
          (machine coreId arguments).Reachable Machine.anyStep earlier →
          (machine coreId arguments).Leads Machine.anyStep earlier state →
          earlier.body.storedRunning = false) ∧
    ∃ final,
      (machine coreId arguments).Leads Machine.anyStep state final ∧
        final.creator.hasReturned = true := by
  have begun := begun_of_reachable reached
  refine ⟨?_, ?_, begun.returns⟩
  · intro returned later run
    exact begun.thread_returned reached returned run
  · intro returned
    have finished := begun.consistent.returnedNull returned
    refine ⟨?_, finished, ?_⟩
    · apply begun.pinned
      rw [finished]
      rfl
    · intro earlier reachedEarlier run
      exact begun.null_returned returned reachedEarlier run

/-- A thread that cannot be pinned to the first core: `failed` is found behind
one load of `running`, and the thread is joined. -/
theorem createAndStartThread_outcome_sample :
    ∃ state,
      (machine 0 1).Reachable Machine.anyStep state ∧
        state.creator = .returned false ∧
        state.body = .finished true ∧
        ∀ earlier,
          (machine 0 1).Reachable Machine.anyStep earlier →
          (machine 0 1).Leads Machine.anyStep earlier state →
          earlier.body.storedRunning = false := by
  have creates {before after : Handshake} (step : CreatorStep before after) :
      (machine 0 1).step .creator before after := step
  have runs {before after : Handshake} (step : BodyStep 0 1 before after) :
      (machine 0 1).step .created before after := step
  have started :=
    Machine.Reachable.start.next_any (creates (.startThread rfl))
  have tested := started.next_any (runs (.testCoreId rfl))
  have unpinned := tested.next_any (runs (.setThreadCore false rfl))
  have looked := unpinned.next_any (creates (.loadRunning rfl))
  have printed := looked.next_any (runs (.printName true rfl))
  have printedBoth := printed.next_any (runs (.printCoreId true rfl))
  have stored := printedBoth.next_any (runs (.storeFailed rfl))
  have found := stored.next_any (creates (.loadFailed rfl))
  have joining := found.next_any (creates (.testFailed rfl))
  have returned := joining.next_any (creates (.join true rfl rfl))
  obtain ⟨_, finished, neverRan⟩ :=
    (createAndStartThread_outcome 0 1 _ returned).2.1 rfl
  exact ⟨_, returned, rfl, finished, neverRan⟩

end Runs

end Handshake

end ThreadUtils

end LowLatencyBlocks
