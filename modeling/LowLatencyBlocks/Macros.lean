import Mathlib.Algebra.Group.Nat.Defs
import Mathlib.Data.Nat.Basic

/-!
# What the classes share

`macros.h`, and the two properties of the target machine that the classes rest
on: a `size_t` has 64 bits, and an access outside a vector has no defined
result.
-/

namespace LowLatencyBlocks

/-- `size_t` of the x86-64 target; arithmetic on it wraps. -/
abbrev SizeT := BitVec 64

/-- The ways in which a call does not return normally. -/
inductive Fault where
  /-- `exit(EXIT_FAILURE)` after printing the message. -/
  | exit (message : String)
  /-- An access to an element that the vector does not have. -/
  | outOfRange (index : Nat)
  deriving DecidableEq, Repr

/-- `ASSERT` of `macros.h`. -/
def assert (condition : Bool) (message : String) : Except Fault Unit :=
  if condition then .ok () else .error (.exit message)

@[simp]
theorem assert_eq_ok_iff {condition : Bool} {message : String} :
    assert condition message = .ok () ↔ condition = true := by
  cases condition <;> simp [assert]

/-- `FATAL` of `macros.h`. -/
def fatal (message : String) : Fault :=
  .exit message

/-- `store_[index]` of a `std::vector`. -/
def vectorAt {T : Type} (store : List T) (index : Nat) : Except Fault T :=
  match store[index]? with
  | some value => .ok value
  | none => .error (.outOfRange index)

theorem vectorAt_eq_ok_iff
    {T : Type} {store : List T} {index : Nat} {value : T} :
    vectorAt store index = .ok value ↔ store[index]? = some value := by
  rw [vectorAt]
  cases store[index]? <;> simp

/-- The length of a vector that a class indexes modulo its length: positive,
and a `size_t`. -/
structure Capacity where
  size : Nat
  positive : 0 < size
  fits : size < 2 ^ 64

/-- The capacity of the sample runs. -/
def twoSlots : Capacity :=
  ⟨2, by decide, by decide⟩

end LowLatencyBlocks
