import LowLatencyBlocks.Library.CString
import LowLatencyBlocks.Macros

/-!
# Datagrams and printed lines

What the UDP samples share: the outcome of one receiving call, and `std::cout`
of a `char*`, which prints up to the first NUL and not up to the received
length.
-/

namespace LowLatencyBlocks

open Library

namespace UdpSockets

def eagain : Int :=
  11

def ewouldblock : Int :=
  11

/-- `errno == EAGAIN || errno == EWOULDBLOCK`. -/
def wouldBlock (errno : Int) : Bool :=
  errno == eagain || errno == ewouldblock

/-- One `recvfrom` or `recv`: the datagram that was next, at its full length,
or -1 with `errno`. -/
inductive Received where
  | datagram (bytes : List UInt8)
  | failed (errno : Int)
  deriving DecidableEq, Repr

/-- A piece of output: a line on `std::cout`, or a `perror`. -/
inductive Printed where
  | line (label : String) (text : List UInt8)
  | perror (text : String) (errno : Int)
  deriving DecidableEq, Repr

def Printed.isLine : Printed → Bool
  | .line _ _ => true
  | .perror _ _ => false

/-- What `std::cout` shows of a run. -/
def lines (printed : List Printed) : List Printed :=
  printed.filter Printed.isLine

/-- The bytes that a call with a buffer of this size stores. -/
def stored (size : Nat) (bytes : List UInt8) : List UInt8 :=
  bytes.take size

/-- `buffer[index] = value` in an array of this size. -/
def setAt (size : Nat) (buffer : Buffer UInt8) (index : Nat) (value : UInt8) :
    Except Fault (Buffer UInt8) :=
  if index < size then
    .ok (buffer.write index [value])
  else
    .error (.outOfRange index)

/-- `std::cout << label << buffer << std::endl`; the array is read up to its
first NUL, or past its end. -/
def printLine (label : String) (size : Nat) (buffer : Buffer UInt8) :
    Except Fault Printed :=
  match cString 0 size buffer with
  | some text => .ok (.line label text)
  | none => .error (.outOfRange size)

/-- Print something, then go on. -/
def printThen (piece : Printed) (rest : Except Fault (List Printed)) :
    Except Fault (List Printed) :=
  rest.map fun printed => piece :: printed

/-- A run up to what `std::cout` shows of it. -/
def shown (run : Except Fault (List Printed)) :
    Except Fault (List Printed) :=
  run.map lines

section Lines

variable {printed : List Printed} {label text : String} {errno : Int}
  {bytes line : List UInt8} {size : Nat} {buffer : Buffer UInt8}

/-- A run without output. -/
@[simp]
theorem shown_nil : shown (.ok []) = .ok [] :=
  rfl

theorem length_stored_le : (stored size bytes).length ≤ size :=
  List.length_take_le size bytes

theorem stored_of_le (short : bytes.length ≤ size) :
    stored size bytes = bytes :=
  List.take_of_length_le short

theorem printLine_eq_ok_iff :
    printLine label size buffer = .ok (.line label line) ↔
      cString 0 size buffer = some line := by
  rw [printLine]
  cases cString 0 size buffer with
  | none =>
      simp
  | some text =>
      simp

@[simp]
theorem shown_perror {rest : Except Fault (List Printed)} :
    shown (printThen (.perror text errno) rest) = shown rest := by
  cases rest <;> rfl

@[simp]
theorem shown_line {rest : Except Fault (List Printed)} :
    shown (printThen (.line label line) rest) =
      printThen (.line label line) (shown rest) := by
  cases rest <;> rfl

@[simp]
theorem printThen_eq_ok_cons_iff
    {rest : Except Fault (List Printed)} {piece first : Printed} :
    printThen piece rest = .ok (first :: printed) ↔
      piece = first ∧ rest = .ok printed := by
  cases rest with
  | error fault =>
      simp [printThen, Except.map]
  | ok later =>
      simp [printThen, Except.map]

/-- What a run shows that begins with a line. -/
theorem shown_printLine_iff {rest : Except Fault (List Printed)} :
    shown (printLine label size buffer >>= fun written =>
        printThen written rest) = .ok printed ↔
      ∃ text later,
        cString 0 size buffer = some text ∧ shown rest = .ok later ∧
          printed = .line label text :: later := by
  rw [printLine]
  cases read : cString 0 size buffer with
  | none =>
      simp [bind, Except.bind, shown, Except.map]
  | some text =>
      simp only [bind, Except.bind, shown_line]
      cases shown rest with
      | error fault =>
          simp [printThen, Except.map]
      | ok later =>
          simp [printThen, Except.map, eq_comm]

end Lines

end UdpSockets

end LowLatencyBlocks
