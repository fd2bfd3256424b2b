import Mathlib.Logic.Function.Basic
import LowLatencyBlocks.Library.Machine

/-!
# Machines with many members

A machine of which each call moves some of its members, each by a call of its
own.  A member then makes a run of its own, whatever the others do: it is that
of the calls that concern it.
-/

namespace Library

universe u v w x

section Members

variable {Index : Type u} [DecidableEq Index] {State : Type v}
  {Call : Type w} {step : State → Call → Option State}

/-- The listed members make their calls, one after the other. -/
def stepEach
    (step : State → Call → Option State) (calls : Index → Call)
    (members : List Index) (states : Index → State) :
    Option (Index → State) :=
  exec
    (fun states member =>
      (step (states member) (calls member)).map
        (Function.update states member))
    members states

variable {calls : Index → Call} {members : List Index}
  {before after : Index → State}

theorem stepEach_cons_iff {member : Index} :
    stepEach step calls (member :: members) before = some after ↔
      ∃ next,
        step (before member) (calls member) = some next ∧
          stepEach step calls members (Function.update before member next) =
            some after := by
  rw [stepEach, exec_cons]
  cases step (before member) (calls member) with
  | none =>
      simp
  | some next =>
      simp only [Option.map_some, Option.bind_some, Option.some.injEq,
        exists_eq_left']
      rfl

/-- A member that is not listed stays as it is. -/
theorem stepEach_of_notMem
    {index : Index} (absent : index ∉ members)
    (ran : stepEach step calls members before = some after) :
    after index = before index := by
  induction members generalizing before with
  | nil =>
      cases ran
      rfl
  | cons member members inductionHypothesis =>
      obtain ⟨next, _, later⟩ := stepEach_cons_iff.mp ran
      rw [List.mem_cons, not_or] at absent
      rw [inductionHypothesis absent.2 later,
        Function.update_of_ne absent.1]

/-- A member that is listed once makes its call. -/
theorem stepEach_of_mem
    {index : Index} (once : members.Nodup) (listed : index ∈ members)
    (ran : stepEach step calls members before = some after) :
    step (before index) (calls index) = some (after index) := by
  induction members generalizing before with
  | nil =>
      cases listed
  | cons member members inductionHypothesis =>
      obtain ⟨next, stepped, later⟩ := stepEach_cons_iff.mp ran
      rw [List.nodup_cons] at once
      by_cases same : index = member
      · rw [same, stepEach_of_notMem once.1 later, Function.update_self]
        exact stepped
      · have listedLater := (List.mem_cons.mp listed).resolve_left same
        rw [← inductionHypothesis once.2 listedLater later,
          Function.update_of_ne same]

/-- All the listed members can make their calls when each of them can. -/
theorem stepEach_returns
    (once : members.Nodup)
    (returns :
      ∀ index ∈ members,
        ∃ next, step (before index) (calls index) = some next) :
    ∃ after, stepEach step calls members before = some after := by
  induction members generalizing before with
  | nil =>
      exact ⟨before, rfl⟩
  | cons member members inductionHypothesis =>
      rw [List.nodup_cons] at once
      obtain ⟨next, stepped⟩ := returns member List.mem_cons_self
      have returnsLater :
          ∀ index ∈ members,
            ∃ later,
              step (Function.update before member next index)
                (calls index) = some later := by
        intro index listed
        have other : index ≠ member := by
          intro same
          rw [same] at listed
          exact once.1 listed
        rw [Function.update_of_ne other]
        exact returns index (List.mem_cons_of_mem member listed)
      obtain ⟨after, later⟩ := inductionHypothesis once.2 returnsLater
      exact ⟨after, stepEach_cons_iff.mpr ⟨next, stepped, later⟩⟩

end Members

/-! ## The run of one member -/

section Projection

variable {Whole : Type u} {Label : Type v} {State : Type w} {Call : Type x}

/-- The calls of one member in a run of the whole, where `own` tells those that
a step of the whole makes. -/
def callsOf
    (step : Whole → Label → Option Whole)
    (own : Whole → Label → List Call) :
    List Label → Whole → List Call
  | [], _ => []
  | label :: labels, whole =>
      own whole label ++
        (step whole label).elim [] (callsOf step own labels)

/-- When each step of the whole makes the member's own calls, a run of the whole
is a run of the member. -/
theorem exec_callsOf
    {step : Whole → Label → Option Whole}
    {memberStep : State → Call → Option State}
    {own : Whole → Label → List Call} {promised : Whole → Label → Whole → Prop}
    (member : Whole → State) (invariant : Whole → Prop)
    (moves :
      ∀ before label after,
        invariant before →
        step before label = some after →
        exec memberStep (own before label) (member before) =
          some (member after))
    (kept :
      ∀ before label after,
        invariant before →
        step before label = some after →
        promised before label after →
        invariant after)
    {labels : List Label} {start final : Whole}
    (promises : EachStep step promised labels start)
    (initial : invariant start)
    (ran : exec step labels start = some final) :
    exec memberStep (callsOf step own labels start) (member start) =
      some (member final) := by
  induction labels generalizing start with
  | nil =>
      cases ran
      rfl
  | cons label labels inductionHypothesis =>
      rw [exec_cons] at ran
      obtain ⟨next, stepped, ranLater⟩ := Option.bind_eq_some_iff.mp ran
      obtain ⟨promise, promisesLater⟩ := promises next stepped
      have later :=
        inductionHypothesis promisesLater
          (kept start label next initial stepped promise) ranLater
      rw [callsOf, stepped, exec_append,
        moves start label next initial stepped]
      exact later

end Projection

end Library
