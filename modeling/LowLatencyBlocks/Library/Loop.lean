import Mathlib.Data.Nat.Find

/-!
# Loops over an infinite sequence of inputs

A `while` loop whose body consumes one input a turn: the results of a system
call, say.  `behind` is the state after so many turns, and stays where it is
once the guard has failed, so that the loop leaves when some such state does not
satisfy the guard.
-/

namespace Library

universe u v

/-- A `while` loop, with one input for each turn. -/
structure Loop (State : Type u) (Input : Type v) where
  guard : State → Bool
  turn : State → Input → State

namespace Loop

variable {State : Type u} {Input : Type v}

/-- One turn, if the guard holds. -/
def step (loop : Loop State Input) (state : State) (input : Input) :
    State :=
  if loop.guard state then loop.turn state input else state

/-- The state behind the given number of turns. -/
def behind (loop : Loop State Input) (inputs : Nat → Input) (start : State) :
    Nat → State
  | 0 => start
  | turns + 1 => loop.step (loop.behind inputs start turns) (inputs turns)

def Leaves (loop : Loop State Input) (inputs : Nat → Input) (start : State) :
    Prop :=
  ∃ turns, loop.guard (loop.behind inputs start turns) = false

variable {loop : Loop State Input} {inputs : Nat → Input}
  {start : State} {turns : Nat}

theorem behind_zero : loop.behind inputs start 0 = start :=
  rfl

theorem behind_succ_of_guard
    (guard : loop.guard (loop.behind inputs start turns) = true) :
    loop.behind inputs start (turns + 1) =
      loop.turn (loop.behind inputs start turns) (inputs turns) := by
  rw [behind, step, if_pos guard]

theorem behind_succ_of_left
    (left : loop.guard (loop.behind inputs start turns) = false) :
    loop.behind inputs start (turns + 1) =
      loop.behind inputs start turns := by
  rw [behind, step, if_neg (Bool.not_eq_true _ ▸ left)]

/-- The first turn taken apart instead of the last one. -/
theorem behind_succ :
    loop.behind inputs start (turns + 1) =
      loop.behind (fun turn => inputs (turn + 1))
        (loop.step start (inputs 0)) turns := by
  induction turns with
  | zero =>
      rfl
  | succ turns inductionHypothesis =>
      rw [behind, inductionHypothesis, behind]

/-- A loop that runs now has run before. -/
theorem guard_of_le
    {earlier : Nat} (order : earlier ≤ turns)
    (guard : loop.guard (loop.behind inputs start turns) = true) :
    loop.guard (loop.behind inputs start earlier) = true := by
  induction order with
  | refl =>
      exact guard
  | @step later _ inductionHypothesis =>
      apply inductionHypothesis
      by_contra left
      rw [Bool.not_eq_true] at left
      rw [behind_succ_of_left left, left] at guard
      cases guard

theorem running_before
    (guard : loop.guard (loop.behind inputs start turns) = true) :
    ∀ earlier < turns,
      loop.guard (loop.behind inputs start earlier) = true :=
  fun _ before => guard_of_le (Nat.le_of_lt before) guard

/-- What every turn of a running loop preserves. -/
theorem running_invariant
    (holds : Nat → State → Prop)
    (initial : holds 0 start)
    (preserved :
      ∀ turns state,
        holds turns state →
        loop.guard state = true →
        holds (turns + 1) (loop.turn state (inputs turns)))
    (running :
      ∀ earlier < turns,
        loop.guard (loop.behind inputs start earlier) = true) :
    holds turns (loop.behind inputs start turns) := by
  induction turns with
  | zero =>
      exact initial
  | succ turns inductionHypothesis =>
      have guard := running turns (Nat.lt_succ_self turns)
      have held : holds turns (loop.behind inputs start turns) := by
        apply inductionHypothesis
        intro earlier before
        exact running earlier (Nat.lt_succ_of_lt before)
      rw [behind_succ_of_guard guard]
      exact preserved turns _ held guard

/-- The turn in which the loop leaves. -/
theorem Leaves.exists_first
    (leaves : loop.Leaves inputs start) :
    ∃ turns,
      loop.guard (loop.behind inputs start turns) = false ∧
        ∀ earlier < turns,
          loop.guard (loop.behind inputs start earlier) = true := by
  refine ⟨Nat.find leaves, Nat.find_spec leaves, ?_⟩
  intro earlier before
  have running := Nat.find_min leaves before
  rwa [Bool.not_eq_false] at running

end Loop

end Library
