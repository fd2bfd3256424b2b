import LowLatencyBlocks.Library.Machine
import Mathlib.Data.Finset.Card

/-!
# Handing out handles

What an allocator of a fixed set of handles is for: a handle is taken only
while it is not in use, and given back only while it is.  The history of takes
and gives is recorded, so that "never handed out twice" is a statement about
one state.
-/

namespace Library

universe u

namespace Allocator

inductive Event (Handle : Type u) where
  | take (handle : Handle)
  | give (handle : Handle)
  deriving DecidableEq

end Allocator

structure Allocator (Handle : Type u) where
  inUse : Finset Handle
  history : List (Allocator.Event Handle)

namespace Allocator

variable {Handle : Type u} [DecidableEq Handle]

def empty : Allocator Handle :=
  ⟨∅, []⟩

def taking (allocator : Allocator Handle) (handle : Handle) :
    Allocator Handle where
  inUse := insert handle allocator.inUse
  history := allocator.history ++ [.take handle]

def giving (allocator : Allocator Handle) (handle : Handle) :
    Allocator Handle where
  inUse := allocator.inUse.erase handle
  history := allocator.history ++ [.give handle]

inductive Step :
    Event Handle → Allocator Handle → Allocator Handle → Prop
  | take (allocator : Allocator Handle) (handle : Handle) :
      handle ∉ allocator.inUse →
      Step (.take handle) allocator (allocator.taking handle)
  | give (allocator : Allocator Handle) (handle : Handle) :
      handle ∈ allocator.inUse →
      Step (.give handle) allocator (allocator.giving handle)

def machine (Handle : Type u) [DecidableEq Handle] :
    Machine (Allocator Handle) (Event Handle) where
  start := empty
  step := Step

/-- A handle that was taken is in use until it is given. -/
theorem inUse_or_given
    {allocator : Allocator Handle}
    (reached : (machine Handle).Reachable Machine.anyStep allocator)
    {handle : Handle} {earlier later : List (Event Handle)}
    (cut : allocator.history = earlier ++ .take handle :: later) :
    handle ∈ allocator.inUse ∨ .give handle ∈ later := by
  revert earlier later
  refine reached.invariant
    (fun allocator =>
      ∀ {earlier later},
        allocator.history = earlier ++ .take handle :: later →
        handle ∈ allocator.inUse ∨ .give handle ∈ later) ?_ ?_
  · intro earlier later cut
    exact absurd cut.symm (List.append_ne_nil_of_right_ne_nil _ nofun)
  intro event before after accounted step _ earlier later cut
  cases step with
  | take _ other fresh =>
      rcases cut_append_singleton cut with
        ⟨_, same, _⟩ | ⟨shorter, rfl, cutBefore⟩
      · cases same
        exact .inl (Finset.mem_insert_self _ _)
      · rcases accounted cutBefore with held | given
        · exact .inl (Finset.mem_insert_of_mem held)
        · exact .inr (List.mem_append_left _ given)
  | give _ other held =>
      rcases cut_append_singleton cut with
        ⟨_, same, _⟩ | ⟨shorter, rfl, cutBefore⟩
      · cases same
      · rcases accounted cutBefore with stillHeld | given
        · by_cases same : handle = other
          · rw [same]
            exact .inr (List.mem_append_right _ (List.mem_singleton_self _))
          · exact .inl (Finset.mem_erase.mpr ⟨same, stillHeld⟩)
        · exact .inr (List.mem_append_left _ given)

/-- Between two takes of a handle it is given back. -/
theorem given_between_takes
    {allocator : Allocator Handle}
    (reached : (machine Handle).Reachable Machine.anyStep allocator)
    {handle : Handle} {earlier between later : List (Event Handle)}
    (cut :
      allocator.history =
        earlier ++ .take handle :: (between ++ .take handle :: later)) :
    .give handle ∈ between := by
  revert earlier between later
  refine reached.strong_invariant
    (fun allocator =>
      ∀ {earlier between later : List (Event Handle)},
        allocator.history =
          earlier ++ .take handle :: (between ++ .take handle :: later) →
        Event.give handle ∈ between) ?_ ?_
  · intro earlier between later cut
    exact absurd cut.symm (List.append_ne_nil_of_right_ne_nil _ nofun)
  intro event before after reachedBefore accounted step _
    earlier between later cut
  have regrouped :
      after.history =
        (earlier ++ .take handle :: between) ++ .take handle :: later := by
    rw [cut, List.append_assoc, List.cons_append]
  cases step with
  | take _ other fresh =>
      rcases cut_append_singleton regrouped with
        ⟨_, same, cutBefore⟩ | ⟨shorter, rfl, cutBefore⟩
      · cases same
        exact (inUse_or_given reachedBefore cutBefore).resolve_left fresh
      · rw [List.append_assoc, List.cons_append] at cutBefore
        exact accounted cutBefore
  | give _ other held =>
      rcases cut_append_singleton regrouped with
        ⟨_, same, _⟩ | ⟨shorter, rfl, cutBefore⟩
      · cases same
      · rw [List.append_assoc, List.cons_append] at cutBefore
        exact accounted cutBefore

end Allocator

end Library
