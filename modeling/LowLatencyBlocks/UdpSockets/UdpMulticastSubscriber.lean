import LowLatencyBlocks.UdpSockets.Datagrams

/-!
# The lines of the multicast subscriber

The drain loop of the subscriber prints the buffer after every `recv`.  It does
not terminate what `recv` has stored, so that a line goes on with what was in
the buffer before; and after an error it prints the buffer all the same.
-/

namespace LowLatencyBlocks

open Library

namespace UdpSockets

/-- `sizeof(buffer)`. -/
def sizeofBuffer : Nat :=
  2048

/-- The drain loop until the outcomes of `recv` are used up.  A `recv` that
would block leaves it, and the outcome behind it is the first of the loop that
the next event enters: nothing is printed or stored in between. -/
def drainLoop (buffer : Buffer UInt8) :
    List Received → Except Fault (List Printed)
  | [] => .ok []
  | .failed errno :: later =>
      if wouldBlock errno then
        drainLoop buffer later
      else
        -- there is no `continue` behind the `perror`
        printThen (.perror "recv" errno) do
          let line ← printLine "Recieved: " sizeofBuffer buffer
          printThen line (drainLoop buffer later)
  | .datagram bytes :: later => do
      let buffer := buffer.write 0 (stored sizeofBuffer bytes)
      let line ← printLine "Recieved: " sizeofBuffer buffer
      printThen line (drainLoop buffer later)

/-- One line for every datagram, with its bytes up to its first NUL or its
end. -/
def ownLines : List Received → List Printed
  | [] => []
  | .failed _ :: later => ownLines later
  | .datagram bytes :: later =>
      .line "Recieved: " (upTo 0 (stored sizeofBuffer bytes)) ::
        ownLines later

/-- A datagram that has a NUL, or behind which the buffer has one. -/
def EndsIn (buffer : Buffer UInt8) (bytes : List UInt8) : Prop :=
  0 ∈ bytes ∨ bytes.length < sizeofBuffer ∧ buffer bytes.length = 0

/-- Every datagram ends in what the buffer held before it, and there is no error
but that a `recv` would block. -/
def EndInBuffer (buffer : Buffer UInt8) : List Received → Prop
  | [] => True
  | .failed errno :: later =>
      wouldBlock errno = true ∧ EndInBuffer buffer later
  | .datagram bytes :: later =>
      EndsIn buffer (stored sizeofBuffer bytes) ∧
        EndInBuffer (buffer.write 0 (stored sizeofBuffer bytes)) later

section Lines

variable {buffer : Buffer UInt8} {bytes : List UInt8} {errno : Int}
  {outcomes later : List Received} {printed : List Printed}

/-- Every datagram and every error has a line. -/
theorem length_ownLines_le
    (ran : shown (drainLoop buffer outcomes) = .ok printed) :
    (ownLines outcomes).length ≤ printed.length := by
  induction outcomes generalizing buffer printed with
  | nil =>
      exact Nat.zero_le _
  | cons received later inductionHypothesis =>
      cases received with
      | failed errno =>
          rw [ownLines]
          rw [drainLoop] at ran
          by_cases again : wouldBlock errno = true
          · rw [if_pos again] at ran
            exact inductionHypothesis ran
          · rw [if_neg again, shown_perror, shown_printLine_iff] at ran
            obtain ⟨text, rest, _, ranRest, rfl⟩ := ran
            exact Nat.le_succ_of_le (inductionHypothesis ranRest)
      | datagram bytes =>
          rw [drainLoop, shown_printLine_iff] at ran
          obtain ⟨text, rest, _, ranRest, rfl⟩ := ran
          rw [ownLines]
          exact Nat.succ_le_succ (inductionHypothesis ranRest)

/-- The line that an error leaves is one too many. -/
theorem shown_error_ne (fatal : ¬ wouldBlock errno = true) :
    shown (drainLoop buffer (.failed errno :: later)) ≠
      .ok (ownLines later) := by
  intro ran
  rw [drainLoop, if_neg fatal, shown_perror, shown_printLine_iff] at ran
  obtain ⟨text, rest, _, ranRest, same⟩ := ran
  have enough := length_ownLines_le ranRest
  rw [same, List.length_cons] at enough
  exact Nat.not_succ_le_self rest.length enough

theorem shown_datagram_iff :
    shown (drainLoop buffer (.datagram bytes :: later)) =
        .ok (ownLines (.datagram bytes :: later)) ↔
      EndsIn buffer (stored sizeofBuffer bytes) ∧
        shown (drainLoop (buffer.write 0 (stored sizeofBuffer bytes))
          later) = .ok (ownLines later) := by
  rw [drainLoop, shown_printLine_iff, ownLines, EndsIn,
    ← cString_write_iff length_stored_le]
  simp only [List.cons.injEq, Printed.line.injEq, true_and]
  constructor
  · rintro ⟨text, rest, read, ran, rfl, rfl⟩
    exact ⟨read, ran⟩
  · rintro ⟨read, ran⟩
    exact ⟨_, _, read, ran, rfl, rfl⟩

end Lines

/-- Exactly one line is shown for every datagram, with its own bytes, and none
for an error, exactly when every datagram ends in the buffer, and there is no
error other than that a `recv` would block. -/
theorem subscriber_lines_iff
    (buffer : Buffer UInt8) (outcomes : List Received) :
    shown (drainLoop buffer outcomes) = .ok (ownLines outcomes) ↔
      EndInBuffer buffer outcomes := by
  induction outcomes generalizing buffer with
  | nil =>
      simp [drainLoop, ownLines, EndInBuffer]
  | cons received later inductionHypothesis =>
      cases received with
      | failed errno =>
          rw [EndInBuffer, ← inductionHypothesis, ownLines]
          by_cases again : wouldBlock errno = true
          · rw [drainLoop, if_pos again]
            simp only [again, true_and]
          · simp only [shown_error_ne again, again, Bool.false_eq_true,
              false_and]
      | datagram bytes =>
          rw [EndInBuffer, ← inductionHypothesis, shown_datagram_iff]

/-- The line of a shorter datagram goes on with the longer one before it; and an
error has a line. -/
theorem subscriber_lines_mixed :
    shown (drainLoop (fun _ => 0)
        [.datagram [104, 101, 108, 108, 111], .datagram [104, 105]]) ≠
          .ok (ownLines
            [.datagram [104, 101, 108, 108, 111], .datagram [104, 105]]) ∧
      shown (drainLoop (fun _ => 0) [.failed 4]) ≠
        .ok (ownLines [.failed 4]) := by
  constructor
  · intro own
    have ownLater := (shown_datagram_iff.mp own).2
    rcases (shown_datagram_iff.mp ownLater).1 with terminated | ⟨_, behind⟩
    · exact absurd terminated (by decide)
    · exact absurd behind (by decide)
  · exact shown_error_ne (by decide)

end UdpSockets

end LowLatencyBlocks
