import LowLatencyBlocks.Sockets.IncomingStream

/-!
# The bounds of the send buffer

`send` copies before anything compares the length with `TCPBufferSize`; the
`std::min` of `sendAndRecv()` comes behind the copies.  So the copies stay in
`send_buffer_` exactly while the pieces submitted between two flushes fit in it
together.

A copy that leaves the buffer ends the run, so that what a call must not do is
stated in the state in which it is made.
-/

namespace LowLatencyBlocks

open Library

namespace TCPSocket

/-- One `send`; `none` when it leaves the buffer. -/
def sendStep (socket : TCPSocket) (data : List UInt8) : Option TCPSocket :=
  (socket.send data).toOption

/-- `send` stays in the buffer, and data that does not fit changes nothing. -/
def SendInside (socket : TCPSocket) (data : List UInt8) : Prop :=
  ∃ after,
    socket.send data = .ok after ∧
      after.Fits ∧
      (tcpBufferSize < socket.nextSendValidIndex + data.length →
        after.sendBuffer = socket.sendBuffer ∧
          after.nextSendValidIndex = socket.nextSendValidIndex)

/-- The socket in which a callback begins to send. -/
def atReplies
    (socket : TCPSocket) (received : RecvResult) (reaction : Reaction) :
    TCPSocket :=
  if reaction.takesReceived then
    { socket.deliver received.bytes with nextRcvValidIndex := 0 }
  else
    socket.deliver received.bytes

/-- Every call stays in the buffer; a `sendAndRecv` does if each `send` of its
callback does. -/
def StaysInside (outgoing : Outgoing) : Call → Prop
  | .send data => outgoing.socket.SendInside data
  | .sendAndRecv ctrl received callback _ =>
      ∀ reaction,
        outgoing.socket.reaction ctrl received callback = some reaction →
        EachCall sendStep SendInside reaction.sends
          (outgoing.socket.atReplies received reaction)

/-- The bytes held and the ones submitted by the call fit in the buffer. -/
def LeavesRoom (outgoing : Outgoing) : Call → Prop
  | .send data =>
      outgoing.socket.nextSendValidIndex + data.length ≤ tcpBufferSize
  | .sendAndRecv ctrl received callback _ =>
      outgoing.socket.nextSendValidIndex +
          (outgoing.socket.replies ctrl received callback).length ≤
        tcpBufferSize

section OneCall

variable {socket after : TCPSocket} {data : List UInt8}

/-- A `send` whose data fits. -/
theorem send_returns
    (room : socket.nextSendValidIndex + data.length ≤ tcpBufferSize) :
    ∃ after,
      socket.send data = .ok after ∧
        after.nextSendValidIndex =
          socket.nextSendValidIndex + data.length := by
  rw [send]
  by_cases anything : 0 < data.length
  · rw [if_pos anything, if_pos room]
    exact ⟨_, rfl, rfl⟩
  · rw [if_neg anything]
    refine ⟨socket, rfl, ?_⟩
    omega

/-- Data that does not fit leaves the buffer. -/
theorem send_fails
    (fits : socket.Fits)
    (full : tcpBufferSize < socket.nextSendValidIndex + data.length) :
    socket.send data =
      .error (.outOfRange (max tcpBufferSize socket.nextSendValidIndex)) := by
  rw [Fits] at fits
  have anything : 0 < data.length := by omega
  rw [send, if_pos anything, if_neg (Nat.not_le.mpr full)]

theorem atReplies_nextSendValidIndex
    (socket : TCPSocket) (received : RecvResult) (reaction : Reaction) :
    (socket.atReplies received reaction).nextSendValidIndex =
      socket.nextSendValidIndex := by
  rw [atReplies]
  by_cases takes : reaction.takesReceived = true
  · rw [if_pos takes]
    rfl
  · rw [if_neg takes]
    rfl

theorem sendInside_iff (fits : socket.Fits) :
    socket.SendInside data ↔
      socket.nextSendValidIndex + data.length ≤ tcpBufferSize := by
  constructor
  · intro inside
    obtain ⟨after, sent, _⟩ := inside
    by_contra full
    rw [send_fails fits (Nat.lt_of_not_le full)] at sent
    cases sent
  · intro room
    obtain ⟨after, sent, index⟩ := send_returns room
    refine ⟨after, sent, ?_, ?_⟩
    · rw [Fits, index]
      exact room
    · intro full
      exact absurd room (Nat.not_le.mpr full)

/-- The sends of a callback stay in the buffer exactly when all their bytes fit
together. -/
theorem sendsInside_iff
    (fits : socket.Fits) (sends : List (List UInt8)) :
    EachCall sendStep SendInside sends socket ↔
      socket.nextSendValidIndex + sends.flatten.length ≤
        tcpBufferSize := by
  induction sends generalizing socket with
  | nil =>
      simp only [EachCall, List.flatten_nil, List.length_nil, Nat.add_zero,
        true_iff]
      exact fits
  | cons data sends inductionHypothesis =>
      rw [List.flatten_cons, List.length_append]
      constructor
      · rintro ⟨inside, later⟩
        have room := (sendInside_iff fits).mp inside
        obtain ⟨after, sent, index⟩ := send_returns room
        have stepped : sendStep socket data = some after := by
          rw [sendStep, sent]
          rfl
        have fitsAfter : after.Fits := by
          rw [Fits, index]
          exact room
        have roomLater :=
          (inductionHypothesis fitsAfter).mp (later after stepped)
        omega
      · intro room
        have roomNow :
            socket.nextSendValidIndex + data.length ≤ tcpBufferSize := by
          omega
        refine ⟨(sendInside_iff fits).mpr roomNow, ?_⟩
        intro after stepped
        obtain ⟨sentAfter, sent, index⟩ := send_returns roomNow
        rw [sendStep, sent] at stepped
        cases stepped
        have fitsAfter : after.Fits := by
          rw [Fits, index]
          exact roomNow
        apply (inductionHypothesis fitsAfter).mpr
        omega

end OneCall

namespace Outgoing

variable {before after : Outgoing} {call : Call}

theorem staysInside_iff (fits : before.socket.Fits) :
    StaysInside before call ↔ LeavesRoom before call := by
  cases call with
  | send data =>
      exact sendInside_iff fits
  | sendAndRecv ctrl received callback results =>
      rw [StaysInside, LeavesRoom, replies]
      cases called : before.socket.reaction ctrl received callback with
      | none =>
          simp only [reduceCtorEq, false_implies, implies_true,
            List.length_nil, Nat.add_zero, true_iff]
          exact fits
      | some reaction =>
          have sameIndex :=
            atReplies_nextSendValidIndex before.socket received reaction
          have fitsThen :
              (before.socket.atReplies received reaction).Fits := by
            rw [Fits, sameIndex]
            exact fits
          simp only [Option.some.injEq, forall_eq']
          rw [sendsInside_iff fitsThen reaction.sends, sameIndex]

/-- The index is in the buffer after every call that returns. -/
theorem fits_step
    (fits : before.socket.Fits) (stepped : step before call = some after) :
    after.socket.Fits := by
  cases call with
  | send data =>
      obtain ⟨socket, sent, rfl⟩ := send_step_cases stepped
      exact (send_appends sent).fits fits
  | sendAndRecv ctrl received callback results =>
      obtain ⟨_, emptied, _⟩ := sendAndRecv_step_cases fits stepped
      rw [Fits, emptied]
      exact Nat.zero_le _

/-- Every call of a run stays in the send buffer exactly when every call leaves
room in it. -/
theorem send_stays_inside_iff
    (sendMemory rcvMemory : Buffer UInt8) (calls : List Call) :
    EachCall step StaysInside calls (start sendMemory rcvMemory) ↔
      EachCall step LeavesRoom calls (start sendMemory rcvMemory) := by
  have agree : ∀ {before : Outgoing} {call : Call},
      before.socket.Fits →
      (StaysInside before call ↔ LeavesRoom before call) :=
    fun fits => staysInside_iff fits
  have kept : ∀ {before : Outgoing} {call : Call} {after : Outgoing},
      before.socket.Fits → StaysInside before call →
      step before call = some after → after.socket.Fits :=
    fun fits _ stepped => fits_step fits stepped
  exact eachCall_congr agree kept calls (Nat.zero_le _)

/-- One byte more than the buffer has. -/
theorem send_leaves_buffer :
    ¬ EachCall step StaysInside
      [.send (List.replicate (tcpBufferSize + 1) 0)]
      (start (fun _ => 0) (fun _ => 0)) := by
  intro each
  have room := (staysInside_iff (Nat.zero_le _)).mp each.1
  rw [LeavesRoom, List.length_replicate] at room
  omega

end Outgoing

end TCPSocket

end LowLatencyBlocks
