import Mathlib.Data.List.Basic
import Mathlib.Data.List.GetD

/-!
# Reading and writing ranges of a buffer

A buffer is a function from positions to cells; where it ends is up to its
owner.  `cells` reads a range of it and `write` overwrites one, and the lemmas
say what a range holds after a write before it, at it, or behind it.
-/

namespace Library

universe u

/-- An unbounded array of cells. -/
abbrev Buffer (α : Type u) :=
  Nat → α

namespace Buffer

variable {α : Type u}

/-- The `count` cells from `start` on. -/
def cells (buffer : Buffer α) (start count : Nat) : List α :=
  (List.range count).map fun index => buffer (start + index)

/-- Overwrite the cells from `start` on. -/
def write (buffer : Buffer α) (start : Nat) (values : List α) : Buffer α :=
  fun position =>
    if start ≤ position then
      values.getD (position - start) (buffer position)
    else
      buffer position

section Ranges

variable {buffer : Buffer α} {start count : Nat} {values : List α}

@[simp]
theorem length_cells : (buffer.cells start count).length = count := by
  rw [cells, List.length_map, List.length_range]

theorem cells_congr
    {other : Buffer α}
    (same :
      ∀ position, start ≤ position → position < start + count →
        buffer position = other position) :
    buffer.cells start count = other.cells start count := by
  apply List.map_congr_left
  intro index member
  have inside := List.mem_range.mp member
  exact same (start + index) (by omega) (by omega)

theorem cells_append (first second : Nat) :
    buffer.cells start (first + second) =
      buffer.cells start first ++
        buffer.cells (start + first) second := by
  rw [cells, List.range_add, List.map_append, List.map_map]
  apply congrArg (buffer.cells start first ++ ·)
  apply List.map_congr_left
  intro index _
  rw [Function.comp_apply, Nat.add_assoc]

theorem cells_succ :
    buffer.cells start (count + 1) =
      buffer start :: buffer.cells (start + 1) count := by
  rw [Nat.add_comm count, cells_append]
  rfl

theorem take_cells {first : Nat} (order : first ≤ count) :
    (buffer.cells start count).take first = buffer.cells start first := by
  obtain ⟨second, rfl⟩ := Nat.exists_eq_add_of_le order
  rw [cells_append, List.take_left' length_cells]

theorem write_of_lt {position : Nat} (before : position < start) :
    buffer.write start values position = buffer position :=
  if_neg (Nat.not_le.mpr before)

theorem write_of_inside {index : Nat} (inside : index < values.length) :
    buffer.write start values (start + index) = values[index] := by
  rw [write, if_pos (Nat.le_add_right start index),
    Nat.add_sub_cancel_left, List.getD_eq_getElem _ _ inside]

theorem write_of_ge
    {position : Nat} (behind : start + values.length ≤ position) :
    buffer.write start values position = buffer position := by
  rw [write, if_pos (by omega), List.getD_eq_default _ _ (by omega)]

/-- Two writes one behind the other are one write. -/
theorem write_write_append {more : List α} :
    (buffer.write start values).write (start + values.length) more =
      buffer.write start (values ++ more) := by
  funext position
  rcases Nat.lt_or_ge position (start + values.length) with
    earlier | later
  · rw [write_of_lt earlier]
    rcases Nat.lt_or_ge position start with before | inside
    · rw [write_of_lt before, write_of_lt before]
    · rw [write, write, if_pos inside, if_pos inside,
        List.getD_append _ _ _ _ (by omega)]
  · rw [write, if_pos later, write_of_ge later, write,
      if_pos (by omega), List.getD_append_right _ _ _ _ (by omega),
      Nat.sub_sub]

theorem cells_write_before {first : Nat} (before : first ≤ start) :
    (buffer.write start values).cells 0 first = buffer.cells 0 first := by
  apply cells_congr
  intro position _ inside
  exact write_of_lt (by omega)

theorem cells_write_self :
    (buffer.write start values).cells start values.length = values := by
  apply List.ext_getElem length_cells
  intro index _ inside
  simp only [cells, List.getElem_map, List.getElem_range]
  exact write_of_inside inside

/-- Writing behind a prefix appends to it. -/
theorem cells_write_append :
    (buffer.write start values).cells 0 (start + values.length) =
      buffer.cells 0 start ++ values := by
  rw [cells_append, cells_write_before (Nat.le_refl start), Nat.zero_add,
    cells_write_self]

/-- The cells behind a write at the start keep their values. -/
theorem cells_write_start {limit : Nat} (room : values.length ≤ limit) :
    (buffer.write 0 values).cells 0 limit =
      values ++ buffer.cells values.length (limit - values.length) := by
  have written : (buffer.write 0 values).cells 0 values.length = values :=
    cells_write_self
  have behind :
      (buffer.write 0 values).cells values.length (limit - values.length) =
        buffer.cells values.length (limit - values.length) := by
    apply cells_congr
    intro position after _
    exact write_of_ge (by omega)
  have split : limit = values.length + (limit - values.length) := by omega
  rw [split, cells_append, written, Nat.zero_add, Nat.add_sub_cancel_left,
    behind]

end Ranges

end Buffer

end Library
