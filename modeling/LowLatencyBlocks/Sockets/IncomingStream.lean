import LowLatencyBlocks.Sockets.OutgoingStream

/-!
# The incoming bytes of a TCP socket

What `rcv_buffer_` holds over many calls of `send` and `sendAndRecv`: the bytes
received since a callback last took them.  `recvmsg` is given the rest of the
buffer, so that the index stays in it.
-/

namespace LowLatencyBlocks

open Library

/-- The bytes that a `recvmsg` delivers. -/
def RecvResult.bytes : RecvResult → List UInt8
  | .delivered bytes _ => bytes
  | .failed _ => []

namespace TCPSocket

/-- The `iovec` ends with `rcv_buffer_`, whose part before it holds exactly
these bytes. -/
structure Received (socket : TCPSocket) (bytes : List UInt8) : Prop where
  inside : socket.nextRcvValidIndex ≤ tcpBufferSize
  iovec : socket.nextRcvValidIndex + socket.iovLen = tcpBufferSize
  contents :
    socket.rcvBuffer.cells 0 socket.nextRcvValidIndex = bytes

/-- The receive buffer and its index are the same. -/
def SameReceived (first second : TCPSocket) : Prop :=
  second.rcvBuffer = first.rcvBuffer ∧
    second.nextRcvValidIndex = first.nextRcvValidIndex

section ReceiveBuffer

variable {socket before after : TCPSocket} {bytes : List UInt8}

/-- The subtraction of `iov_len` does not wrap. -/
theorem received_of_contents
    (inside : socket.nextRcvValidIndex ≤ tcpBufferSize)
    (contents :
      socket.rcvBuffer.cells 0 socket.nextRcvValidIndex = bytes) :
    socket.Received bytes := by
  refine ⟨inside, ?_, contents⟩
  have small : tcpBufferSize < 2 ^ 64 := by decide
  have split :
      2 ^ 64 + tcpBufferSize - socket.nextRcvValidIndex =
        tcpBufferSize - socket.nextRcvValidIndex + 2 ^ 64 := by
    omega
  rw [iovLen, split, Nat.add_mod_right, Nat.mod_eq_of_lt (by omega)]
  omega

theorem Received.same
    (received : before.Received bytes) (same : before.SameReceived after) :
    after.Received bytes := by
  obtain ⟨sameBuffer, sameIndex⟩ := same
  apply received_of_contents
  · rw [sameIndex]
    exact received.inside
  · rw [sameBuffer, sameIndex]
    exact received.contents

/-- What the callback finds. -/
theorem Received.deliver
    (received : socket.Received bytes) {more : List UInt8}
    (room : more.length ≤ socket.iovLen) :
    (socket.deliver more).Received (bytes ++ more) := by
  have iovec := received.iovec
  apply received_of_contents
  · change socket.nextRcvValidIndex + more.length ≤ tcpBufferSize
    omega
  · rw [← received.contents]
    exact Buffer.cells_write_append

/-- What a callback leaves that takes the bytes. -/
theorem received_reset (socket : TCPSocket) :
    ({ socket with nextRcvValidIndex := 0 } : TCPSocket).Received [] := by
  apply received_of_contents
  · exact Nat.zero_le _
  · rfl

theorem sameReceived_send
    {data : List UInt8} (sent : before.send data = .ok after) :
    before.SameReceived after := by
  rcases send_cases sent with ⟨_, rfl⟩ | ⟨_, rfl⟩
  · exact ⟨rfl, rfl⟩
  · exact ⟨rfl, rfl⟩

theorem sameReceived_sends
    {sends : List (List UInt8)}
    (sent : sends.foldlM send before = .ok after) :
    before.SameReceived after := by
  induction sends generalizing before with
  | nil =>
      cases sent
      exact ⟨rfl, rfl⟩
  | cons data sends inductionHypothesis =>
      obtain ⟨middle, first, later⟩ := sends_cons_cases sent
      obtain ⟨sameBuffer, sameIndex⟩ := inductionHypothesis later
      obtain ⟨sameFirst, sameFirstIndex⟩ := sameReceived_send first
      exact ⟨sameBuffer.trans sameFirst, sameIndex.trans sameFirstIndex⟩

end ReceiveBuffer

/-- A socket with the bytes received since a callback last took them, and the
numbers of non-empty reads and of callbacks. -/
structure Incoming where
  socket : TCPSocket
  sinceReset : List UInt8
  reads : Nat
  callbacks : Nat

namespace Incoming

def start (sendMemory rcvMemory : Buffer UInt8) : Incoming where
  socket := make sendMemory rcvMemory
  sinceReset := []
  reads := 0
  callbacks := 0

/-- The bytes received since the last reset, behind a read and its callback. -/
def afterRead
    (incoming : Incoming) (ctrl : List UInt8)
    (received : RecvResult) (callback : RecvCallback) : List UInt8 :=
  if (incoming.socket.reaction ctrl received callback).any
      Reaction.takesReceived then
    []
  else
    incoming.sinceReset ++ received.bytes

/-- One call; `none` when it does not return, or leaves the buffer. -/
def step (incoming : Incoming) : Call → Option Incoming
  | .send data =>
      match incoming.socket.send data with
      | .ok socket => some { incoming with socket := socket }
      | .error _ => none
  | .sendAndRecv ctrl received callback results => do
      let returned ←
        incoming.socket.sendAndRecv ctrl received callback results
      return {
        socket := returned.socket
        sinceReset := incoming.afterRead ctrl received callback
        reads := incoming.reads + if 0 < received.nRcv then 1 else 0
        callbacks :=
          incoming.callbacks +
            if (incoming.socket.reaction ctrl received callback).isSome
            then 1 else 0 }

section OneCall

variable {incoming after : Incoming} {ctrl : List UInt8}
  {received : RecvResult} {callback : RecvCallback}

/-- A read calls the callback exactly when it is not empty. -/
theorem reaction_isSome_iff (socket : TCPSocket) :
    (socket.reaction ctrl received callback).isSome = true ↔
      0 < received.nRcv := by
  cases received with
  | failed errno =>
      simp [reaction, RecvResult.nRcv]
  | delivered bytes control =>
      by_cases anything : 0 < bytes.length
      · simp [reaction, RecvResult.nRcv, anything]
      · simp [reaction, RecvResult.nRcv, anything]

/-- What a read and its callback leave in the buffer. -/
theorem received_of_receive
    {buffered : TCPSocket}
    (held : incoming.socket.Received incoming.sinceReset)
    (allowed : received.Allowed incoming.socket.iovLen)
    (receives :
      incoming.socket.receive ctrl received callback = .ok buffered) :
    buffered.Received (incoming.afterRead ctrl received callback) := by
  unfold receive at receives
  rw [afterRead]
  cases received with
  | failed errno =>
      cases receives
      rw [reaction, RecvResult.bytes, List.append_nil]
      exact held
  | delivered bytes control =>
      obtain ⟨room, _⟩ := allowed
      have delivered := held.deliver room
      cases called :
          incoming.socket.reaction ctrl (.delivered bytes control)
            callback with
      | none =>
          rw [called] at receives
          cases receives
          have nothing : bytes = [] := by
            have uncalled :=
              not_congr
                (@reaction_isSome_iff ctrl (.delivered bytes control)
                  callback incoming.socket)
            rw [called, RecvResult.nRcv] at uncalled
            apply List.eq_nil_of_length_eq_zero
            have := uncalled.mp (by decide)
            omega
          rw [nothing, RecvResult.bytes, List.append_nil]
          exact held
      | some reaction =>
          rw [called] at receives
          rw [Option.any_some]
          cases takes : reaction.takesReceived with
          | true =>
              simp only [takes, if_true] at receives
              exact (received_reset _).same (sameReceived_sends receives)
          | false =>
              simp only [takes, Bool.false_eq_true, if_false] at receives
              exact delivered.same (sameReceived_sends receives)

end OneCall

/-- What holds after every call. -/
structure Accounts (incoming : Incoming) : Prop where
  received : incoming.socket.Received incoming.sinceReset
  called : incoming.callbacks = incoming.reads

theorem accounts_start (sendMemory rcvMemory : Buffer UInt8) :
    (start sendMemory rcvMemory).Accounts where
  received := received_reset (make sendMemory rcvMemory)
  called := rfl

theorem allowed_of_sendAndRecv
    {socket : TCPSocket} {ctrl : List UInt8} {received : RecvResult}
    {callback : RecvCallback} {results : List SendResult}
    {returned : Returned}
    (ran :
      socket.sendAndRecv ctrl received callback results = some returned) :
    received.Allowed socket.iovLen := by
  by_contra excluded
  rw [sendAndRecv, if_neg excluded] at ran
  cases ran

theorem Accounts.next
    {before after : Incoming} (accounts : before.Accounts) {call : Call}
    (stepped : step before call = some after) :
    after.Accounts := by
  cases call with
  | send data =>
      rw [step] at stepped
      cases sent : before.socket.send data with
      | error fault =>
          simp only [sent] at stepped
          cases stepped
      | ok socket =>
          simp only [sent] at stepped
          cases stepped
          exact
            ⟨accounts.received.same (sameReceived_send sent),
              accounts.called⟩
  | sendAndRecv ctrl received callback results =>
      obtain ⟨returned, ran, same⟩ := Option.bind_eq_some_iff.mp stepped
      cases same
      obtain ⟨buffered, disconnected, receives, _, socketAfter⟩ :=
        sendAndRecv_cases ran
      have readNow :=
        received_of_receive accounts.received
          (allowed_of_sendAndRecv ran) receives
      refine ⟨?_, ?_⟩
      · -- the send loop leaves the receive buffer alone
        apply readNow.same
        rw [socketAfter]
        exact ⟨rfl, rfl⟩
      · simp only [reaction_isSome_iff, accounts.called]

theorem accounts_of_exec
    {sendMemory rcvMemory : Buffer UInt8} {calls : List Call}
    {incoming : Incoming}
    (ran :
      exec step calls (start sendMemory rcvMemory) = some incoming) :
    incoming.Accounts := by
  apply
    exec_invariant Accounts _ (accounts_start sendMemory rcvMemory) ran
  intro before call after accounts stepped
  exact accounts.next stepped

/-- The receive buffer after every run, in the state that the next callback
sees, and in the one that it leaves to the send loop. -/
theorem receive_buffer_contents
    (sendMemory rcvMemory : Buffer UInt8) (calls : List Call)
    (incoming : Incoming)
    (ran :
      exec step calls (start sendMemory rcvMemory) = some incoming) :
    incoming.socket.Received incoming.sinceReset ∧
      incoming.callbacks = incoming.reads ∧
      ∀ ctrl received callback,
        received.Allowed incoming.socket.iovLen →
        (incoming.socket.deliver received.bytes).Received
            (incoming.sinceReset ++ received.bytes) ∧
          ∀ buffered,
            incoming.socket.receive ctrl received callback =
                .ok buffered →
              buffered.Received
                (incoming.afterRead ctrl received callback) := by
  have accounts := accounts_of_exec ran
  refine ⟨accounts.received, accounts.called, ?_⟩
  intro ctrl received callback allowed
  constructor
  · apply accounts.received.deliver
    cases received with
    | failed errno =>
        exact Nat.zero_le _
    | delivered bytes control =>
        exact allowed.1
  · intro buffered receives
    exact received_of_receive accounts.received allowed receives

/-- Two bytes are read and kept; the next one is taken with them and answered;
then one more is read. -/
def sampleReads : List Call :=
  [.sendAndRecv (List.replicate sizeofCtrl 0) (.delivered [97, 98] [])
      (fun _ _ => ⟨false, []⟩) [],
    .sendAndRecv (List.replicate sizeofCtrl 0) (.delivered [99] [])
      (fun _ _ => ⟨true, [[111, 107]]⟩) [.accepted 2],
    .sendAndRecv (List.replicate sizeofCtrl 0) (.delivered [100] [])
      (fun _ _ => ⟨false, []⟩) []]

theorem receive_buffer_contents_sample :
    ∃ incoming,
      exec step sampleReads (start (fun _ => 0) (fun _ => 0)) =
          some incoming ∧
        incoming.socket.Received [100] ∧
        incoming.callbacks = 3 := by
  have ranAll :
      ∃ incoming,
        exec step sampleReads (start (fun _ => 0) (fun _ => 0)) =
            some incoming ∧
          incoming.sinceReset = [100] ∧ incoming.callbacks = 3 :=
    ⟨_, rfl, rfl, rfl⟩
  obtain ⟨incoming, ran, sinceReset, called⟩ := ranAll
  refine ⟨incoming, ran, ?_, called⟩
  rw [← sinceReset]
  exact (receive_buffer_contents _ _ _ incoming ran).1

end Incoming

end TCPSocket

end LowLatencyBlocks
