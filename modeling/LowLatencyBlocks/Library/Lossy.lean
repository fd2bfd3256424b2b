import Mathlib.Data.List.Basic
import Mathlib.Data.List.Induction

/-!
# The lossy queue

What a bounded queue is for that never refuses a value: it stores the most
recent values, a value pushed into the full queue drives the oldest stored one
out, and a pop takes the oldest stored one.

The queue records the values pushed and taken and the number of those lost, so
that order and loss are statements about one state.
-/

namespace Library

universe u

structure Lossy (α : Type u) where
  stored : List α
  pushed : List α
  taken : List α
  lost : Nat
  deriving DecidableEq, Repr

namespace Lossy

variable {α : Type u}

inductive Call (α : Type u) where
  | push (value : α)
  | pop
  deriving DecidableEq, Repr

def empty : Lossy α where
  stored := []
  pushed := []
  taken := []
  lost := 0

def push (capacity : Nat) (queue : Lossy α) (value : α) : Lossy α :=
  if queue.stored.length < capacity then
    { queue with
      stored := queue.stored ++ [value]
      pushed := queue.pushed ++ [value] }
  else
    { queue with
      stored := queue.stored.tail ++ [value]
      pushed := queue.pushed ++ [value]
      lost := queue.lost + 1 }

/-- A pop from the empty queue takes nothing. -/
def pop (queue : Lossy α) : Lossy α :=
  match queue.stored with
  | [] => queue
  | oldest :: rest =>
      { queue with
        stored := rest
        taken := queue.taken ++ [oldest] }

def next (capacity : Nat) (queue : Lossy α) : Call α → Lossy α
  | .push value => queue.push capacity value
  | .pop => queue.pop

/-- The queue of `capacity` values after the calls. -/
def run (capacity : Nat) (calls : List (Call α)) : Lossy α :=
  calls.foldl (next capacity) empty

theorem run_append_singleton
    (capacity : Nat) (calls : List (Call α)) (call : Call α) :
    run capacity (calls ++ [call]) =
      (run capacity calls).next capacity call := by
  rw [run, List.foldl_append]
  rfl

theorem push_pushed
    (capacity : Nat) (queue : Lossy α) (value : α) :
    (queue.push capacity value).pushed = queue.pushed ++ [value] := by
  rw [push]
  split <;> rfl

theorem push_taken
    (capacity : Nat) (queue : Lossy α) (value : α) :
    (queue.push capacity value).taken = queue.taken := by
  rw [push]
  split <;> rfl

theorem pop_pushed (queue : Lossy α) :
    queue.pop.pushed = queue.pushed := by
  rw [pop]
  split <;> rfl

theorem pop_taken_of_empty
    {queue : Lossy α} (empty : queue.stored = []) :
    queue.pop.taken = queue.taken := by
  rw [pop, empty]

theorem pop_taken_of_cons
    {queue : Lossy α} {oldest : α} {rest : List α}
    (stored : queue.stored = oldest :: rest) :
    queue.pop.taken = queue.taken ++ [oldest] := by
  rw [pop, stored]

/-! ## Order and loss -/

/-- The values pushed are those gone, which are lost or taken, and those
stored; the values taken and stored are in the order of the pushes. -/
structure Accounted (capacity : Nat) (queue : Lossy α) : Prop where
  stored :
    queue.stored = queue.pushed.drop (queue.lost + queue.taken.length)
  total :
    queue.lost + queue.taken.length + queue.stored.length =
      queue.pushed.length
  bound : queue.stored.length ≤ capacity
  order : (queue.taken ++ queue.stored).Sublist queue.pushed

namespace Accounted

variable {capacity : Nat} {queue : Lossy α}

theorem empty : (empty : Lossy α).Accounted capacity where
  stored := rfl
  total := rfl
  bound := Nat.zero_le _
  order := List.Sublist.refl _

theorem push
    (accounted : queue.Accounted capacity) (positive : 0 < capacity)
    (value : α) :
    (queue.push capacity value).Accounted capacity := by
  have total := accounted.total
  have bound := accounted.bound
  rw [Lossy.push]
  by_cases room : queue.stored.length < capacity
  · have inside :
        queue.lost + queue.taken.length ≤ queue.pushed.length := by
      omega
    rw [if_pos room]
    exact
      { stored := by
          rw [List.drop_append_of_le_length inside, ← accounted.stored]
        total := by
          simp only [List.length_append, List.length_singleton]
          omega
        bound := by
          rw [List.length_append, List.length_singleton]
          exact room
        order := by
          rw [← List.append_assoc]
          exact accounted.order.append (List.Sublist.refl _) }
  · have inside :
        queue.lost + 1 + queue.taken.length ≤ queue.pushed.length := by
      omega
    have storedTail :
        queue.stored.tail =
          queue.pushed.drop (queue.lost + 1 + queue.taken.length) := by
      rw [accounted.stored, List.tail_drop, Nat.add_right_comm]
    rw [if_neg room]
    exact
      { stored := by
          rw [List.drop_append_of_le_length inside, ← storedTail]
        total := by
          simp only [List.length_append, List.length_singleton,
            List.length_tail]
          omega
        bound := by
          simp only [List.length_append, List.length_singleton,
            List.length_tail]
          omega
        order := by
          rw [← List.append_assoc]
          have shorter :
              (queue.taken ++ queue.stored.tail).Sublist queue.pushed :=
            ((List.Sublist.refl _).append
              (List.tail_sublist _)).trans accounted.order
          exact shorter.append (List.Sublist.refl _) }

theorem pop (accounted : queue.Accounted capacity) :
    queue.pop.Accounted capacity := by
  obtain ⟨suffix, total, bound, order⟩ := accounted
  rw [Lossy.pop]
  cases stored : queue.stored with
  | nil =>
      exact ⟨suffix, total, bound, order⟩
  | cons oldest rest =>
      rw [stored] at suffix total bound order
      exact
        { stored := by
            rw [List.length_append, List.length_singleton,
              ← Nat.add_assoc, ← List.tail_drop, ← suffix,
              List.tail_cons]
          total := by
            simp only [List.length_append, List.length_singleton]
            rw [List.length_cons] at total
            omega
          bound := Nat.le_of_succ_le bound
          order := by
            rw [List.append_assoc, List.singleton_append]
            exact order }

theorem run (positive : 0 < capacity) (calls : List (Call α)) :
    (Lossy.run capacity calls).Accounted capacity := by
  induction calls using List.reverseRecOn with
  | nil =>
      exact empty
  | append_singleton earlier call inductionHypothesis =>
      rw [run_append_singleton]
      cases call with
      | push value =>
          exact inductionHypothesis.push positive value
      | pop =>
          exact inductionHypothesis.pop

/-- The oldest stored value is the one after those that are gone. -/
theorem oldest
    (accounted : queue.Accounted capacity)
    {oldest : α} {rest : List α}
    (stored : queue.stored = oldest :: rest) :
    queue.pushed[queue.lost + queue.taken.length]? = some oldest := by
  rw [← List.head?_drop, ← accounted.stored, stored]
  rfl

/-- What is stored are the most recent values. -/
theorem stored_suffix (accounted : queue.Accounted capacity) :
    queue.stored <:+ queue.pushed := by
  rw [accounted.stored]
  exact List.drop_suffix _ _

end Accounted

end Lossy

end Library
