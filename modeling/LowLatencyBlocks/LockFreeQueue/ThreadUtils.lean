import Mathlib.Data.Finset.Erase
import Mathlib.Data.Finset.Range
import LowLatencyBlocks.Library.Machine

/-!
# Starting a thread

`createAndStartThread` of `thread_utils.h`.  The creating thread polls two flags;
the new thread runs `thread_body`, which captures everything by reference: the
flags, `core_id`, `name`, `func` and `args`.  The two threads interleave in any
order, and every load of a flag, every store to one and every read of another
captured reference is a step of its own.

The new thread stores `running` before it reads `func` and `args`, so that
nothing keeps the creating thread from returning in between.  The function that
it calls may go on using its own captures, which are those of `func`, and the
arguments that it takes by reference.
-/

namespace LowLatencyBlocks

open Library

namespace ThreadUtils

/-- What `thread_body` captures, the flags apart. -/
inductive Capture where
  | coreId
  | name
  | func
  | arg (index : Nat)
  deriving DecidableEq, Repr

/-- What the function may use while it is called. -/
def Capture.Callable (arguments : Nat) : Capture → Prop
  | .coreId => False
  | .name => False
  | .func => True
  | .arg index => index < arguments

/-- Where the creating thread stands. -/
inductive Creator where
  | starting
  | loadRunning
  | loadFailed
  | sleeping
  /-- At the `if` behind the loop. -/
  | testFailed
  | joining
  /-- It has returned the thread, or `nullptr`. -/
  | returned (thread : Bool)
  deriving DecidableEq, Repr

/-- Where `thread_body` stands; `failing` tells whether the affinity could not
be set. -/
inductive Body where
  | notStarted
  | testCoreId
  | setThreadCore
  | printName (failing : Bool)
  | printCoreId (failing : Bool)
  | storeFailed
  | storeRunning
  | forwardFunc
  /-- The arguments that are still to be forwarded. -/
  | forwardArgs (left : Finset Nat)
  | calling
  | finished (failing : Bool)
  deriving DecidableEq

/-- Both threads, their flags, and the captured references that were read when
`createAndStartThread` had returned. -/
structure Handshake where
  creator : Creator
  body : Body
  running : Bool
  failed : Bool
  readLate : List Capture

inductive Party where
  | creator
  | created
  deriving DecidableEq, Repr

def Creator.hasReturned : Creator → Bool
  | .returned _ => true
  | _ => false

/-- It is in its loop, between two tests. -/
def Creator.waits : Creator → Bool
  | .loadRunning => true
  | .loadFailed => true
  | .sleeping => true
  | _ => false

namespace Handshake

/-- At the call of `createAndStartThread`. -/
def start : Handshake where
  creator := .starting
  body := .notStarted
  running := false
  failed := false
  readLate := []

/-- The new thread reads a captured reference. -/
def reads (state : Handshake) (capture : Capture) : Handshake :=
  { state with
    readLate :=
      if state.creator.hasReturned then state.readLate ++ [capture]
      else state.readLate }

/-- The steps of the creating thread. -/
inductive CreatorStep : Handshake → Handshake → Prop
  | startThread {state : Handshake} :
      state.creator = .starting →
      CreatorStep state
        { state with creator := .loadRunning, body := .testCoreId }
  | loadRunning {state : Handshake} :
      state.creator = .loadRunning →
      CreatorStep state
        { state with
          creator := if state.running then .testFailed else .loadFailed }
  | loadFailed {state : Handshake} :
      state.creator = .loadFailed →
      CreatorStep state
        { state with
          creator := if state.failed then .testFailed else .sleeping }
  | wake {state : Handshake} :
      state.creator = .sleeping →
      CreatorStep state { state with creator := .loadRunning }
  | testFailed {state : Handshake} :
      state.creator = .testFailed →
      CreatorStep state
        { state with
          creator := if state.failed then .joining else .returned true }
  | join {state : Handshake} (failing : Bool) :
      state.creator = .joining →
      state.body = .finished failing →
      CreatorStep state { state with creator := .returned false }

/-- The steps of the new thread.  Whether the affinity can be set, and in which
order the arguments are evaluated, is open. -/
inductive BodyStep (coreId : Int) (arguments : Nat) :
    Handshake → Handshake → Prop
  | testCoreId {state : Handshake} :
      state.body = .testCoreId →
      BodyStep coreId arguments state
        { state.reads .coreId with
          body :=
            if 0 ≤ coreId then .setThreadCore else .printName false }
  | setThreadCore {state : Handshake} (pinned : Bool) :
      state.body = .setThreadCore →
      BodyStep coreId arguments state
        { state.reads .coreId with body := .printName (!pinned) }
  | printName {state : Handshake} (failing : Bool) :
      state.body = .printName failing →
      BodyStep coreId arguments state
        { state.reads .name with body := .printCoreId failing }
  | printCoreId {state : Handshake} (failing : Bool) :
      state.body = .printCoreId failing →
      BodyStep coreId arguments state
        { state.reads .coreId with
          body := if failing then .storeFailed else .storeRunning }
  | storeFailed {state : Handshake} :
      state.body = .storeFailed →
      BodyStep coreId arguments state
        { state with failed := true, body := .finished true }
  | storeRunning {state : Handshake} :
      state.body = .storeRunning →
      BodyStep coreId arguments state
        { state with running := true, body := .forwardFunc }
  | forwardFunc {state : Handshake} :
      state.body = .forwardFunc →
      BodyStep coreId arguments state
        { state.reads .func with
          body := .forwardArgs (Finset.range arguments) }
  | forwardArg {state : Handshake} (left : Finset Nat) (index : Nat) :
      state.body = .forwardArgs left →
      index ∈ left →
      BodyStep coreId arguments state
        { state.reads (.arg index) with
          body := .forwardArgs (left.erase index) }
  /-- `operator()` of the callable. -/
  | call {state : Handshake} :
      state.body = .forwardArgs ∅ →
      BodyStep coreId arguments state
        { state.reads .func with body := .calling }
  | use {state : Handshake} (capture : Capture) :
      state.body = .calling →
      capture.Callable arguments →
      BodyStep coreId arguments state (state.reads capture)
  | finish {state : Handshake} :
      state.body = .calling →
      BodyStep coreId arguments state
        { state with body := .finished false }

/-- A step of either thread. -/
def Step (coreId : Int) (arguments : Nat) :
    Party → Handshake → Handshake → Prop
  | .creator, before, after => CreatorStep before after
  | .created, before, after => BodyStep coreId arguments before after

/-- All interleavings of the two threads. -/
def machine (coreId : Int) (arguments : Nat) : Machine Handshake Party where
  start := start
  step := Step coreId arguments

end Handshake

/-! ## What the flags say -/

namespace Body

/-- `running` has been stored. -/
def storedRunning : Body → Bool
  | .forwardFunc => true
  | .forwardArgs _ => true
  | .calling => true
  | .finished failing => !failing
  | _ => false

/-- `failed` has been stored. -/
def storedFailed : Body → Bool
  | .finished failing => failing
  | _ => false

/-- On its way to `failed = true`. -/
def fails : Body → Bool
  | .notStarted => true
  | .testCoreId => true
  | .setThreadCore => true
  | .printName failing => failing
  | .printCoreId failing => failing
  | .storeFailed => true
  | .finished failing => failing
  | _ => false

theorem storedRunning_of_fails
    {body : Body} (fails : body.fails = true) :
    body.storedRunning = false := by
  cases body with
  | finished failing =>
      rw [Body.fails] at fails
      rw [fails]
      rfl
  | forwardFunc | forwardArgs _ | calling =>
      cases fails
  | notStarted | testCoreId | setThreadCore | printName _ | printCoreId _
  | storeFailed | storeRunning =>
      rfl

end Body

namespace Handshake

/-- What holds after every step. -/
structure Consistent (state : Handshake) : Prop where
  running : state.running = state.body.storedRunning
  failed : state.failed = state.body.storedFailed
  starting : state.creator = .starting → state.body = .notStarted
  tested : state.creator = .testFailed →
    state.running = true ∨ state.failed = true
  joining : state.creator = .joining → state.failed = true
  /-- Behind the `join` the new thread is finished. -/
  returnedNull : state.creator = .returned false →
    state.body = .finished true
  returnedThread : state.creator = .returned true → state.running = true

section Steps

variable {coreId : Int} {arguments : Nat} {before after : Handshake}

theorem consistent_start : Consistent start := by
  refine ⟨rfl, rfl, fun _ => rfl, ?_, ?_, ?_, ?_⟩
  all_goals
    intro position
    cases position

theorem BodyStep.creator
    (step : BodyStep coreId arguments before after) :
    after.creator = before.creator := by
  cases step <;> rfl

/-- The flags of a step of the new thread. -/
theorem BodyStep.flags
    (step : BodyStep coreId arguments before after)
    (running : before.running = before.body.storedRunning)
    (failed : before.failed = before.body.storedFailed) :
    after.running = after.body.storedRunning ∧
      after.failed = after.body.storedFailed := by
  cases step with
  | testCoreId stands =>
      rw [stands] at running failed
      by_cases pins : 0 ≤ coreId
      · simp only [reads, pins, if_true, running, failed,
          Body.storedRunning, Body.storedFailed, and_self]
      · simp only [reads, pins, if_false, running, failed,
          Body.storedRunning, Body.storedFailed, and_self]
  | printCoreId failing stands =>
      rw [stands] at running failed
      cases failing <;> exact ⟨running, failed⟩
  | setThreadCore _ stands | printName _ stands | forwardFunc stands
  | forwardArg _ _ stands _ | call stands | finish stands =>
      rw [stands] at running failed
      exact ⟨running, failed⟩
  | use _ _ _ =>
      exact ⟨running, failed⟩
  | storeFailed stands =>
      rw [stands] at running
      exact ⟨running, rfl⟩
  | storeRunning stands =>
      rw [stands] at failed
      exact ⟨rfl, failed⟩

/-- A thread that has stored `failed`, or has not been started, makes no
step. -/
theorem BodyStep.alive
    (step : BodyStep coreId arguments before after) :
    before.body ≠ .notStarted ∧ ∀ failing, before.body ≠ .finished failing := by
  cases step with
  | testCoreId stands | setThreadCore _ stands | printName _ stands
  | printCoreId _ stands | storeFailed stands | storeRunning stands
  | forwardFunc stands | forwardArg _ _ stands _ | call stands
  | use _ stands _ | finish stands =>
      rw [stands]
      constructor
      · intro same
        cases same
      · intro _ same
        cases same

/-- `running` stays stored. -/
theorem BodyStep.keeps_running
    (step : BodyStep coreId arguments before after)
    (running : before.running = true) : after.running = true := by
  cases step <;> first | exact running | rfl

theorem BodyStep.keeps_failed
    (step : BodyStep coreId arguments before after)
    (failed : before.failed = true) : after.failed = true := by
  cases step <;> first | exact failed | rfl

/-- One step lemma for the new thread. -/
theorem Consistent.body_step
    (consistent : before.Consistent)
    (step : BodyStep coreId arguments before after) :
    after.Consistent := by
  obtain ⟨running, failed⟩ :=
    step.flags consistent.running consistent.failed
  obtain ⟨started, unfinished⟩ := step.alive
  refine ⟨running, failed, ?_, ?_, ?_, ?_, ?_⟩
  · intro position
    rw [step.creator] at position
    exact absurd (consistent.starting position) started
  · intro position
    rw [step.creator] at position
    exact
      (consistent.tested position).imp step.keeps_running
        step.keeps_failed
  · intro position
    rw [step.creator] at position
    exact step.keeps_failed (consistent.joining position)
  · intro position
    rw [step.creator] at position
    exact absurd (consistent.returnedNull position) (unfinished true)
  · intro position
    rw [step.creator] at position
    exact step.keeps_running (consistent.returnedThread position)

/-- Nothing else is claimed of a creating thread inside its loop. -/
theorem consistent_of_waits
    {state : Handshake}
    (running : state.running = state.body.storedRunning)
    (failed : state.failed = state.body.storedFailed)
    (waits : state.creator.waits = true) : state.Consistent := by
  refine ⟨running, failed, ?_, ?_, ?_, ?_, ?_⟩
  all_goals
    intro position
    rw [position] at waits
    cases waits

/-- One step lemma for the creating thread. -/
theorem Consistent.creator_step
    (consistent : before.Consistent) (step : CreatorStep before after) :
    after.Consistent := by
  have running := consistent.running
  have failed := consistent.failed
  cases step with
  | startThread stands =>
      rw [consistent.starting stands] at running failed
      exact consistent_of_waits running failed rfl
  | wake stands =>
      exact consistent_of_waits running failed rfl
  | loadRunning stands =>
      by_cases loaded : before.running = true
      · simp only [loaded, if_true] at running ⊢
        refine ⟨running, failed, ?_, fun _ => Or.inl rfl, ?_, ?_, ?_⟩
        all_goals
          intro position
          cases position
      · simp only [loaded] at running ⊢
        exact consistent_of_waits running failed rfl
  | loadFailed stands =>
      by_cases loaded : before.failed = true
      · simp only [loaded, if_true] at failed ⊢
        refine ⟨running, failed, ?_, fun _ => Or.inr rfl, ?_, ?_, ?_⟩
        all_goals
          intro position
          cases position
      · simp only [loaded] at failed ⊢
        exact consistent_of_waits running failed rfl
  | testFailed stands =>
      by_cases loaded : before.failed = true
      · simp only [loaded, if_true] at failed ⊢
        refine ⟨running, failed, ?_, ?_, fun _ => rfl, ?_, ?_⟩
        all_goals
          intro position
          cases position
      · have runs := (consistent.tested stands).resolve_right loaded
        simp only [loaded] at failed ⊢
        refine ⟨running, failed, ?_, ?_, ?_, ?_, fun _ => runs⟩
        all_goals
          intro position
          cases position
  | join failing stands finished =>
      have stored := consistent.joining stands
      rw [failed, finished, Body.storedFailed] at stored
      rw [stored] at finished
      refine ⟨running, failed, ?_, ?_, ?_, fun _ => finished, ?_⟩
      all_goals
        intro position
        cases position

end Steps

/-! ## Reads behind the return -/

/-- What the system answers when the affinity is set. -/
def AffinityAnswer (pinned : Bool)
    (party : Party) (before after : Handshake) : Prop :=
  party = .created →
    before.body = .setThreadCore → after.body = .printName (!pinned)

/-- What holds while the affinity cannot be set. -/
structure Failing (state : Handshake) : Prop where
  consistent : state.Consistent
  fails : state.body.fails = true
  nothingLate : state.readLate = []

section Failing

variable {coreId : Int} {arguments : Nat} {before after : Handshake}

theorem failing_start : Failing start :=
  ⟨consistent_start, rfl, rfl⟩

/-- A thread on its way to `failed` is waited for. -/
theorem Failing.waits
    (failing : before.Failing)
    (unfinished : ∀ failing, before.body ≠ .finished failing) :
    before.creator.hasReturned = false := by
  cases position : before.creator with
  | returned thread =>
      cases thread with
      | false =>
          exact
            absurd (failing.consistent.returnedNull position)
              (unfinished true)
      | true =>
          have running := failing.consistent.returnedThread position
          rw [failing.consistent.running,
            Body.storedRunning_of_fails failing.fails] at running
          cases running
  | _ =>
      rfl

theorem BodyStep.readLate
    (step : BodyStep coreId arguments before after)
    (waiting : before.creator.hasReturned = false) :
    after.readLate = before.readLate := by
  have reads : ∀ capture, (before.reads capture).readLate = before.readLate := by
    intro capture
    simp only [Handshake.reads, waiting, Bool.false_eq_true, if_false]
  cases step with
  | testCoreId _ | setThreadCore _ _ | printName _ _ | printCoreId _ _
  | forwardFunc _ | forwardArg _ _ _ _ | call _ | use _ _ _ =>
      exact reads _
  | storeFailed _ | storeRunning _ | finish _ =>
      rfl

/-- With a core to be pinned to and no way to it, the new thread stays on its
way to `failed`. -/
theorem BodyStep.fails
    (step : BodyStep coreId arguments before after)
    (hasCore : 0 ≤ coreId)
    (answer : AffinityAnswer false .created before after)
    (fails : before.body.fails = true) : after.body.fails = true := by
  cases step with
  | testCoreId _ =>
      simp only [hasCore, if_true]
      rfl
  | setThreadCore pinned stands =>
      rw [answer rfl stands]
      rfl
  | printName failing stands =>
      rw [stands] at fails
      exact fails
  | printCoreId failing stands =>
      rw [stands, Body.fails] at fails
      rw [fails]
      rfl
  | storeFailed _ =>
      rfl
  | storeRunning stands | forwardFunc stands | forwardArg _ _ stands _
  | call stands | use _ stands _ | finish stands =>
      rw [stands] at fails
      cases fails

theorem CreatorStep.fails
    (step : CreatorStep before after) (fails : before.body.fails = true) :
    after.body.fails = true ∧ after.readLate = before.readLate := by
  cases step with
  | startThread _ =>
      exact ⟨rfl, rfl⟩
  | loadRunning _ | loadFailed _ | wake _ | testFailed _ | join _ _ _ =>
      exact ⟨fails, rfl⟩

theorem Failing.step
    {party : Party} (failing : before.Failing) (hasCore : 0 ≤ coreId)
    (step : Step coreId arguments party before after)
    (answer : AffinityAnswer false party before after) :
    after.Failing := by
  cases party with
  | creator =>
      obtain ⟨fails, sameReads⟩ := CreatorStep.fails step failing.fails
      refine ⟨failing.consistent.creator_step step, fails, ?_⟩
      rw [sameReads]
      exact failing.nothingLate
  | created =>
      have waiting := failing.waits (BodyStep.alive step).2
      refine
        ⟨failing.consistent.body_step step,
          BodyStep.fails step hasCore answer failing.fails, ?_⟩
      rw [BodyStep.readLate step waiting]
      exact failing.nothingLate

end Failing

/-! ## A thread that is returned before it reads its function -/

section Returned

variable {coreId : Int} {arguments : Nat} {pinned : Bool}
  {before after : Handshake}

private theorem reachable_creator
    (reached :
      (machine coreId arguments).Reachable (AffinityAnswer pinned) before)
    (step : CreatorStep before after) :
    (machine coreId arguments).Reachable (AffinityAnswer pinned) after := by
  have stepped : (machine coreId arguments).step .creator before after :=
    step
  apply reached.next stepped
  intro isCreated
  cases isCreated

private theorem reachable_created
    (reached :
      (machine coreId arguments).Reachable (AffinityAnswer pinned) before)
    (step : BodyStep coreId arguments before after)
    (elsewhere : before.body ≠ .setThreadCore) :
    (machine coreId arguments).Reachable (AffinityAnswer pinned) after := by
  have stepped : (machine coreId arguments).step .created before after :=
    step
  apply reached.next stepped
  intro _ stands
  exact absurd stands elsewhere

/-- The new thread goes on to its function when it has no core to be pinned to,
or is pinned to it. -/
private theorem reachable_printName
    (goesOn : coreId < 0 ∨ pinned = true) :
    (machine coreId arguments).Reachable (AffinityAnswer pinned)
      ⟨.loadRunning, .printName false, false, false, []⟩ := by
  have started :
      (machine coreId arguments).Reachable (AffinityAnswer pinned)
        ⟨.loadRunning, .testCoreId, false, false, []⟩ :=
    reachable_creator Machine.Reachable.start (.startThread rfl)
  have tested := reachable_created started (.testCoreId rfl) (by simp)
  by_cases hasCore : 0 ≤ coreId
  · have isPinned : pinned = true := goesOn.resolve_left (by omega)
    subst isPinned
    rw [if_pos hasCore] at tested
    have sets :
        (machine coreId arguments).step .created
          ⟨.loadRunning, .setThreadCore, false, false, []⟩
          ⟨.loadRunning, .printName false, false, false, []⟩ :=
      BodyStep.setThreadCore true rfl
    exact tested.next sets fun _ _ => rfl
  · rw [if_neg hasCore] at tested
    exact tested

/-- The creating thread returns as soon as it finds `running` stored, and the
callable is read behind the return. -/
private theorem reachable_late (goesOn : coreId < 0 ∨ pinned = true) :
    (machine coreId arguments).Reachable (AffinityAnswer pinned)
      ⟨.returned true, .forwardArgs (Finset.range arguments), true, false,
        [.func]⟩ := by
  have pinning := @reachable_printName coreId arguments pinned goesOn
  have printed := reachable_created pinning (.printName false rfl) (by simp)
  have printedBoth :=
    reachable_created printed (.printCoreId false rfl) (by simp)
  have stored := reachable_created printedBoth (.storeRunning rfl) (by simp)
  have looked := reachable_creator stored (.loadRunning rfl)
  have returned := reachable_creator looked (.testFailed rfl)
  exact reachable_created returned (.forwardFunc rfl) (by simp)

end Returned

/-- When no interleaving reads a captured reference after `createAndStartThread`
has returned: only when there is a core to be pinned to and the affinity cannot
be set, so that the new thread is joined without having touched its function. -/
theorem captures_read_in_time_iff
    (coreId : Int) (arguments : Nat) (pinned : Bool) :
    (∀ state,
      (machine coreId arguments).Reachable (AffinityAnswer pinned) state →
      state.readLate = []) ↔
      0 ≤ coreId ∧ pinned = false := by
  constructor
  · intro inTime
    by_contra fails
    have goesOn : coreId < 0 ∨ pinned = true := by
      by_cases hasCore : 0 ≤ coreId
      · right
        cases pinned with
        | true =>
            rfl
        | false =>
            exact absurd ⟨hasCore, rfl⟩ fails
      · exact Or.inl (by omega)
    cases inTime _ (reachable_late goesOn)
  · rintro ⟨hasCore, rfl⟩ state reached
    have failing : state.Failing :=
      reached.invariant Failing failing_start
        fun failing step answer => failing.step hasCore step answer
    exact failing.nothingLate

/-- The thread of a logger, which has no core to be pinned to, reads its
function behind the return. -/
theorem callable_read_late :
    ∃ state,
      (machine (-1) 0).Reachable Machine.anyStep state ∧
        state.creator = .returned true ∧ state.readLate = [.func] := by
  have late := @reachable_late (-1) 0 true (Or.inl (by decide))
  exact ⟨_, late.any, rfl, rfl⟩

end Handshake

end ThreadUtils

end LowLatencyBlocks
