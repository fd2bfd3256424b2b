import LowLatencyBlocks.Macros

/-!
# The elements of the log

`LogElement` of `logging.h`: a tag and a union of which the tag names the
member that is set.
-/

namespace LowLatencyBlocks

/-- `LogElement`, one constructor for each `LogType`. -/
inductive LogElement where
  | char (c : UInt8)
  | integer (i : Int32)
  | longInteger (li : Int64)
  | longLongInteger (lli : Int64)
  | unsignedInteger (u : UInt32)
  | unsignedLongInteger (ul : UInt64)
  | unsignedLongLongInteger (ull : UInt64)
  | float (f : Float32)
  | double (d : Float)

/-- `LogElement()`. -/
def LogElement.default : LogElement :=
  .char 0

/-- The bytes that `std::ofstream` writes for a value, one overload of `<<` for
each member of the union. -/
structure Inserters where
  char : UInt8 → List UInt8
  int : Int32 → List UInt8
  long : Int64 → List UInt8
  longLong : Int64 → List UInt8
  unsigned : UInt32 → List UInt8
  unsignedLong : UInt64 → List UInt8
  unsignedLongLong : UInt64 → List UInt8
  float : Float32 → List UInt8
  double : Float → List UInt8

/-- The `switch` in `flushQueue()`. -/
def Inserters.element (file : Inserters) : LogElement → List UInt8
  | .char c => file.char c
  | .integer i => file.int i
  | .longInteger li => file.long li
  | .longLongInteger lli => file.longLong lli
  | .unsignedInteger u => file.unsigned u
  | .unsignedLongInteger ul => file.unsignedLong ul
  | .unsignedLongLongInteger ull => file.unsignedLongLong ull
  | .float f => file.float f
  | .double d => file.double d

/-- What the file holds after the elements were inserted in this order. -/
def Inserters.elements
    (file : Inserters) (written : List LogElement) : List UInt8 :=
  written.flatMap file.element

theorem Inserters.elements_concat
    (file : Inserters) (written : List LogElement) (element : LogElement) :
    file.elements (written ++ [element]) =
      file.elements written ++ file.element element := by
  rw [elements, List.flatMap_append, List.flatMap_singleton]
  rfl

end LowLatencyBlocks
