import LowLatencyBlocks.Library.Buffer
import LowLatencyBlocks.Library.Machine
import LowLatencyBlocks.Library.Records
import LowLatencyBlocks.Macros

/-!
# The binary logger

The class `BinaryLogger` of `binaryLogger.h`.  It maps a file of one megabyte and
appends records `[uint32 len][bytes...]` to the mapping.  What `open`,
`ftruncate` and `mmap` return are parameters of the constructor.

The mapping is shared, so the bytes of the mapping are the bytes of the file.
`write_pos_` never exceeds the size of the file and the length has 32 bits, so
that no `size_t` sum wraps.
-/

namespace LowLatencyBlocks

open Library

/-- A file; the bytes behind its end mean nothing. -/
structure LogFile where
  bytes : Buffer UInt8
  size : Nat

namespace LogFile

/-- The file that `open` with `O_CREAT` creates. -/
def created : LogFile where
  bytes := fun _ => 0
  size := 0

/-- `ftruncate`: what it adds to a shorter file are zeros. -/
def truncate (file : LogFile) (size : Nat) : LogFile where
  bytes := fun position =>
    if position < file.size then file.bytes position else 0
  size := size

/-- The whole file, byte for byte. -/
def image (file : LogFile) : List UInt8 :=
  file.bytes.cells 0 file.size

end LogFile

/-- Where `mmap_ptr_` points: nowhere, at `MAP_FAILED`, or at a mapping of the
file. -/
inductive MmapPtr where
  | null
  | mapFailed
  | mapped (bytes : Buffer UInt8)

structure BinaryLogger where
  fileSize : Nat
  writePos : Nat
  fd : Int
  mmapPtr : MmapPtr

/-- What the calls of the constructor return. -/
structure Opening where
  /-- The descriptor of `open`, or `-1`. -/
  fd : Int
  /-- `ftruncate` returns zero. -/
  truncated : Bool
  /-- `mmap` does not return `MAP_FAILED`. -/
  mapped : Bool

/-- Every call of the constructor succeeds. -/
def Opening.Succeeds (opening : Opening) : Prop :=
  opening.truncated = true ∧ opening.mapped = true

namespace BinaryLogger

/-- The initial value of `file_size_`. -/
def logFileSize : Nat :=
  1024 * 1024

/-- `sizeof(len)`. -/
def sizeofLen : Nat :=
  4

/-- What the constructor leaves behind, with the descriptors that it closed. -/
structure Constructed where
  logger : BinaryLogger
  file : LogFile
  closed : List Int

/-- `BinaryLogger(file)`; it goes on after a call that failed. -/
def make (file : LogFile) (opening : Opening) : Constructed :=
  let truncated :=
    if opening.truncated then file.truncate logFileSize else file
  { logger :=
      { fileSize := logFileSize
        writePos := 0
        fd := opening.fd
        mmapPtr :=
          if opening.mapped then .mapped truncated.bytes else .mapFailed }
    file := truncated
    closed :=
      (if opening.truncated then [] else [opening.fd]) ++
        (if opening.mapped then [] else [opening.fd]) }

/-- `memcpy` to `mmap_ptr_ + write_pos_`. -/
def memcpy (logger : BinaryLogger) (values : List UInt8) :
    Except Fault BinaryLogger :=
  match logger.mmapPtr with
  | .mapped bytes =>
      if logger.writePos + values.length ≤ logger.fileSize then
        .ok { logger with
          mmapPtr := .mapped (bytes.write logger.writePos values) }
      else
        .error (.outOfRange logger.writePos)
  | .null | .mapFailed => .error (.outOfRange logger.writePos)

/-- `write_pos_ += count`. -/
def advance (logger : BinaryLogger) (count : Nat) : BinaryLogger :=
  { logger with writePos := logger.writePos + count }

/-- `log(str)`. -/
def log (logger : BinaryLogger) (str : List UInt8) :
    Except Fault BinaryLogger :=
  let len := UInt32.ofNat str.length
  if logger.fileSize < logger.writePos + sizeofLen + len.toNat then
    .ok logger
  else do
    let logger ← logger.memcpy (littleEndianBytes sizeofLen len.toNat)
    let logger := logger.advance sizeofLen
    let logger ← logger.memcpy (str.take len.toNat)
    return logger.advance len.toNat

/-- What the destructor does: `munmap` of a pointer, and the descriptors that it
closes. -/
structure Destroyed where
  unmapped : Option MmapPtr
  closed : List Int

/-- `~BinaryLogger()`. -/
def destroy (logger : BinaryLogger) : Destroyed where
  unmapped :=
    match logger.mmapPtr with
    | .null => none
    | pointer => some pointer
  closed := if 0 ≤ logger.fd then [logger.fd] else []

/-- One call; `none` when it does not return. -/
def step (logger : BinaryLogger) (str : List UInt8) :
    Option BinaryLogger :=
  (logger.log str).toOption

/-- The file behind a mapping. -/
def stored (logger : BinaryLogger) (file : LogFile) : LogFile :=
  match logger.mmapPtr with
  | .mapped bytes => { file with bytes := bytes }
  | .null | .mapFailed => file

/-- Construct a logger on the file, log the strings, and destroy it. -/
def session (opening : Opening) (file : LogFile)
    (strings : List (List UInt8)) : Option LogFile :=
  (exec step strings (make file opening).logger).map fun logger =>
    logger.stored (make file opening).file

/-! ## One call -/

section OneCall

variable {logger : BinaryLogger} {bytes : Buffer UInt8} {str : List UInt8}

theorem len_of_short (short : str.length < 2 ^ 32) :
    (UInt32.ofNat str.length).toNat = str.length :=
  UInt32.toNat_ofNat_of_lt' short

theorem log_skips
    (short : str.length < 2 ^ 32)
    (full : logger.fileSize < logger.writePos + sizeofLen + str.length) :
    logger.log str = .ok logger := by
  rw [log, len_of_short short]
  exact if_pos full

/-- The logger after the record of a string was appended. -/
def appended
    (logger : BinaryLogger) (bytes : Buffer UInt8) (str : List UInt8) :
    BinaryLogger :=
  { logger with
    writePos := logger.writePos + sizeofLen + str.length
    mmapPtr :=
      .mapped (bytes.write logger.writePos (record sizeofLen str)) }

theorem log_appends
    (mapped : logger.mmapPtr = .mapped bytes)
    (short : str.length < 2 ^ 32)
    (room : logger.writePos + sizeofLen + str.length ≤ logger.fileSize) :
    logger.log str = .ok (logger.appended bytes str) := by
  have roomForLen : logger.writePos + sizeofLen ≤ logger.fileSize := by
    omega
  have oneWrite :
      (bytes.write logger.writePos
            (littleEndianBytes sizeofLen str.length)).write
          (logger.writePos + sizeofLen) str =
        bytes.write logger.writePos (record sizeofLen str) := by
    have behind :
        logger.writePos + sizeofLen =
          logger.writePos +
            (littleEndianBytes sizeofLen str.length).length := by
      rw [length_littleEndianBytes]
    rw [behind]
    exact Buffer.write_write_append
  simp only [log, len_of_short short, if_neg (Nat.not_lt.mpr room),
    memcpy, mapped, length_littleEndianBytes, if_pos roomForLen, advance,
    List.take_length, bind, Except.bind, if_pos room, oneWrite]
  rfl

end OneCall

end BinaryLogger

end LowLatencyBlocks
