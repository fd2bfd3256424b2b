import Mathlib.Data.List.TakeWhile
import LowLatencyBlocks.Library.Buffer

/-!
# Terminated strings in a buffer

A string that ends at the first terminator.  `cString` reads one from the start
of a buffer of so many cells, and fails when the cells hold no terminator.  Over
older contents a written string is read back exactly when it has a terminator of
its own, or is followed by one.
-/

namespace Library

universe u

variable {α : Type u} [DecidableEq α]

/-- The values before the first terminator. -/
def upTo (terminator : α) (values : List α) : List α :=
  values.takeWhile fun value => decide (value ≠ terminator)

/-- The string at the start of a buffer with `limit` cells. -/
def cString (terminator : α) (limit : Nat) (buffer : Buffer α) :
    Option (List α) :=
  if terminator ∈ buffer.cells 0 limit then
    some (upTo terminator (buffer.cells 0 limit))
  else
    none

variable {terminator : α} {first second values : List α} {limit : Nat}
  {buffer : Buffer α}

theorem upTo_of_notMem (absent : terminator ∉ values) :
    upTo terminator values = values := by
  apply List.takeWhile_eq_self_iff.mpr
  intro value member
  rw [decide_eq_true_eq]
  rintro rfl
  exact absent member

theorem upTo_append_of_mem (present : terminator ∈ first) :
    upTo terminator (first ++ second) = upTo terminator first := by
  induction first with
  | nil =>
      cases present
  | cons value rest inductionHypothesis =>
      rw [upTo, upTo, List.cons_append, List.takeWhile_cons,
        List.takeWhile_cons]
      by_cases here : value = terminator
      · simp only [here, ne_eq, not_true_eq_false, decide_false,
          Bool.false_eq_true, if_false]
      · have later :=
          inductionHypothesis
            ((List.mem_cons.mp present).resolve_left (Ne.symm here))
        rw [upTo, upTo] at later
        rw [later]

theorem upTo_append_of_notMem (absent : terminator ∉ first) :
    upTo terminator (first ++ second) =
      first ++ upTo terminator second := by
  apply List.takeWhile_append_of_pos
  intro value member
  rw [decide_eq_true_eq]
  rintro rfl
  exact absent member

theorem upTo_append_terminator :
    upTo terminator (values ++ [terminator]) = upTo terminator values := by
  by_cases present : terminator ∈ values
  · exact upTo_append_of_mem present
  · rw [upTo_append_of_notMem present, upTo_of_notMem present, upTo,
      List.takeWhile_cons]
    simp

theorem upTo_cons_eq_nil_iff {value : α} :
    upTo terminator (value :: values) = [] ↔ value = terminator := by
  rw [upTo, List.takeWhile_cons]
  by_cases here : value = terminator
  · simp [here]
  · simp [here]

/-- A written string is read back, up to its first terminator or its end, exactly
when it has a terminator, or the cell behind it is one. -/
theorem cString_write_iff (room : values.length ≤ limit) :
    cString terminator limit (buffer.write 0 values) =
        some (upTo terminator values) ↔
      terminator ∈ values ∨
        values.length < limit ∧ buffer values.length = terminator := by
  rw [cString, Buffer.cells_write_start room]
  by_cases own : terminator ∈ values
  · rw [if_pos (List.mem_append_left _ own), upTo_append_of_mem own]
    simp only [own, true_or]
  · rw [upTo_append_of_notMem own, upTo_of_notMem own]
    simp only [own, false_or, List.mem_append]
    rcases Nat.eq_or_lt_of_le room with full | less
    · -- there is no cell behind it
      rw [full, Nat.sub_self]
      simp [Buffer.cells]
    · obtain ⟨more, split⟩ := Nat.exists_eq_add_of_lt less
      have rest : limit - values.length = more + 1 := by omega
      rw [rest, Buffer.cells_succ]
      constructor
      · intro read
        refine ⟨less, ?_⟩
        split at read
        · have same := Option.some.inj read
          rw [List.append_right_eq_self] at same
          exact upTo_cons_eq_nil_iff.mp same
        · cases read
      · rintro ⟨_, ended⟩
        rw [if_pos (List.mem_cons.mpr (Or.inl ended.symm)),
          upTo_cons_eq_nil_iff.mpr ended, List.append_nil]

/-- With a terminator behind them the written values are read back. -/
theorem cString_write_terminated (room : values.length < limit) :
    cString terminator limit (buffer.write 0 (values ++ [terminator])) =
      some (upTo terminator values) := by
  have roomBehind : (values ++ [terminator]).length ≤ limit := by
    rw [List.length_append, List.length_singleton]
    exact room
  have present : terminator ∈ values ++ [terminator] :=
    List.mem_append_right values (List.mem_singleton_self terminator)
  rw [(cString_write_iff roomBehind).mpr (Or.inl present),
    upTo_append_terminator]

end Library
