import LowLatencyBlocks.UdpSockets.UdpMulticastSubscriber

/-!
# From the multicast sender to the subscriber

The sender's loop sends each line that is typed, but for the empty ones, and
sends it without a terminator.  On the way datagrams may be lost, repeated and
reordered.  Whether the subscriber then prints the messages that arrive depends
on their order: each has to be at least as long as those before it.
-/

namespace LowLatencyBlocks

open Library

namespace UdpSockets

/-- What the sender's loop gives to `sendto` while `getline` reads these
lines. -/
def sendLoop : List (List UInt8) → List (List UInt8)
  | [] => []
  | msg :: later =>
      if msg.isEmpty then sendLoop later else msg :: sendLoop later

/-- The datagrams that `recv` delivers. -/
def payloads : List Received → List (List UInt8)
  | [] => []
  | .failed _ :: later => payloads later
  | .datagram bytes :: later => bytes :: payloads later

/-- One line for every message, with all its bytes. -/
def messageLines (messages : List (List UInt8)) : List Printed :=
  messages.map fun message => .line "Recieved: " message

/-- A message that a `char*` can hold, and the buffer with a terminator. -/
def Message (bytes : List UInt8) : Prop :=
  0 ∉ bytes ∧ bytes.length < sizeofBuffer

/-- No `recv` fails but because it would block. -/
def OnlyBlocks (outcomes : List Received) : Prop :=
  ∀ errno, .failed errno ∈ outcomes → wouldBlock errno = true

/-- The messages become longer. -/
def Growing (messages : List (List UInt8)) : Prop :=
  messages.Pairwise fun earlier later => earlier.length ≤ later.length

section Lines

variable {buffer : Buffer UInt8} {outcomes later : List Received}
  {errno : Int} {msg bytes : List UInt8} {typed : List (List UInt8)}

theorem mem_sendLoop_iff :
    msg ∈ sendLoop typed ↔ msg ∈ typed ∧ msg ≠ [] := by
  induction typed with
  | nil =>
      simp [sendLoop]
  | cons first rest inductionHypothesis =>
      rw [sendLoop]
      by_cases empty : first = []
      · rw [empty, List.isEmpty_nil, if_pos rfl, inductionHypothesis,
          List.mem_cons]
        constructor
        · intro found
          exact ⟨Or.inr found.1, found.2⟩
        · intro found
          exact ⟨found.1.resolve_left found.2, found.2⟩
      · have kept : ¬ first.isEmpty = true := by
          rw [List.isEmpty_iff]
          exact empty
        rw [if_neg kept, List.mem_cons, List.mem_cons, inductionHypothesis]
        constructor
        · intro found
          rcases found with isFirst | found
          · rw [isFirst]
            exact ⟨Or.inl rfl, empty⟩
          · exact ⟨Or.inr found.1, found.2⟩
        · intro found
          exact found.1.imp_right fun inRest => ⟨inRest, found.2⟩

theorem Message.stored (message : Message bytes) :
    UdpSockets.stored sizeofBuffer bytes = bytes :=
  stored_of_le (Nat.le_of_lt message.2)

theorem ownLines_eq_messageLines
    (messages : ∀ bytes ∈ payloads outcomes, Message bytes) :
    ownLines outcomes = messageLines (payloads outcomes) := by
  induction outcomes with
  | nil =>
      rfl
  | cons received later inductionHypothesis =>
      cases received with
      | failed errno =>
          exact inductionHypothesis messages
      | datagram bytes =>
          have message : Message bytes := messages bytes List.mem_cons_self
          have rest :=
            inductionHypothesis fun other member =>
              messages other (List.mem_cons_of_mem bytes member)
          rw [ownLines, rest, message.stored, upTo_of_notMem message.1]
          rfl

/-- Over a message without NUL the buffer is zero behind it only. -/
theorem write_eq_zero_iff (noNul : 0 ∉ bytes) (position : Nat) :
    buffer.write 0 bytes position = 0 ↔
      bytes.length ≤ position ∧ buffer position = 0 := by
  by_cases inside : position < bytes.length
  · have written : buffer.write 0 bytes position = bytes[position] := by
      simp [Buffer.write, inside]
    have member : bytes[position] ∈ bytes := List.getElem_mem inside
    rw [written]
    constructor
    · intro zero
      rw [zero] at member
      exact absurd member noNul
    · intro behind
      exact absurd behind.1 (Nat.not_le_of_lt inside)
  · rw [Buffer.write_of_ge (by omega)]
    simp [Nat.le_of_not_lt inside]

theorem onlyBlocks_cons_failed :
    OnlyBlocks (.failed errno :: later) ↔
      wouldBlock errno = true ∧ OnlyBlocks later := by
  simp [OnlyBlocks, or_imp, forall_and]

theorem onlyBlocks_cons_datagram :
    OnlyBlocks (.datagram bytes :: later) ↔ OnlyBlocks later := by
  simp [OnlyBlocks]

/-- The subscriber prints the messages it gets exactly when they become longer,
and the buffer was zero behind each of them. -/
theorem shown_messages_iff
    (messages : ∀ bytes ∈ payloads outcomes, Message bytes) :
    shown (drainLoop buffer outcomes) =
        .ok (messageLines (payloads outcomes)) ↔
      OnlyBlocks outcomes ∧ Growing (payloads outcomes) ∧
        ∀ message ∈ payloads outcomes, buffer message.length = 0 := by
  rw [← ownLines_eq_messageLines messages]
  induction outcomes generalizing buffer with
  | nil =>
      simp [drainLoop, ownLines, payloads, OnlyBlocks, Growing]
  | cons received later inductionHypothesis =>
      cases received with
      | failed errno =>
          rw [onlyBlocks_cons_failed, payloads, and_assoc,
            ← inductionHypothesis messages, ownLines]
          by_cases again : wouldBlock errno = true
          · rw [drainLoop, if_pos again]
            simp only [again, true_and]
          · simp only [shown_error_ne again, again, Bool.false_eq_true,
              false_and]
      | datagram bytes =>
          have message : Message bytes := messages bytes List.mem_cons_self
          have laterMessages :
              ∀ other ∈ payloads later, Message other :=
            fun other member =>
              messages other (List.mem_cons_of_mem bytes member)
          rw [shown_datagram_iff, message.stored, EndsIn,
            inductionHypothesis laterMessages, onlyBlocks_cons_datagram,
            payloads, Growing, Growing, List.pairwise_cons]
          simp only [message.1, message.2, false_or, true_and,
            write_eq_zero_iff message.1, List.forall_mem_cons]
          constructor
          · intro printed
            obtain ⟨ended, blocks, growing, behind⟩ := printed
            exact
              ⟨blocks,
                ⟨fun other member => (behind other member).1, growing⟩,
                ended, fun other member => (behind other member).2⟩
          · intro conditions
            obtain ⟨blocks, ⟨longer, growing⟩, ended, behind⟩ := conditions
            exact
              ⟨ended, blocks, growing,
                fun other member =>
                  ⟨longer other member, behind other member⟩⟩

end Lines

/-- Of the lines typed, those that arrive are printed as they were typed, each
once for every arrival, exactly when they become longer, the buffer was zero
behind each of them, and `recv` does not fail. -/
theorem multicast_lines_iff
    (typed : List (List UInt8)) (buffer : Buffer UInt8)
    (outcomes : List Received)
    (messages : ∀ line ∈ typed, Message line)
    (arrived : ∀ bytes ∈ payloads outcomes, bytes ∈ sendLoop typed) :
    shown (drainLoop buffer outcomes) =
        .ok (messageLines (payloads outcomes)) ↔
      OnlyBlocks outcomes ∧ Growing (payloads outcomes) ∧
        ∀ message ∈ payloads outcomes, buffer message.length = 0 := by
  apply shown_messages_iff
  intro bytes member
  exact messages bytes (mem_sendLoop_iff.mp (arrived bytes member)).1

/-- `"hi"`, then an empty line, then `"hello"`: both messages arrive, the first
one twice. -/
theorem multicast_lines_sample :
    shown (drainLoop (fun _ => 0)
        [.datagram [104, 105], .failed 11, .datagram [104, 105],
          .datagram [104, 101, 108, 108, 111]]) =
      .ok (messageLines
        [[104, 105], [104, 105], [104, 101, 108, 108, 111]]) := by
  have messages :
      ∀ line ∈ [[104, 105], [], [104, 101, 108, 108, 111]],
        Message line := by
    simp [Message, sizeofBuffer]
  refine
    (multicast_lines_iff [[104, 105], [], [104, 101, 108, 108, 111]]
      (fun _ => 0) _ messages (by decide)).mpr ⟨?_, ?_, fun _ _ => rfl⟩
  · simp [OnlyBlocks, wouldBlock, eagain]
  · simp [Growing, payloads]

end UdpSockets

end LowLatencyBlocks
