import LowLatencyBlocks.Sockets.SendBounds

/-!
# One end of a connection

A socket whose callback takes every message and answers it, over the byte stream
that the kernel brings it: how many of the next bytes a `recvmsg` delivers is up
to the kernel.  Each `sendAndRecv` then finds the next message and sends what is
held and the answers, and it can always be brought to return.
-/

namespace LowLatencyBlocks

open Library

namespace TCPSocket

/-- `std::string(rcv_buffer_, next_rcv_valid_index_)`. -/
def received (socket : TCPSocket) : List UInt8 :=
  socket.rcvBuffer.cells 0 socket.nextRcvValidIndex

/-- A callback that takes the bytes received and submits its answers to them. -/
def answering (answers : List UInt8 → List (List UInt8)) : RecvCallback :=
  fun socket _ => ⟨true, answers socket.received⟩

/-! ### Calls that return -/

/-- The sends of a callback return when all their bytes fit together. -/
theorem sends_return
    {socket : TCPSocket} {sends : List (List UInt8)}
    (room :
      socket.nextSendValidIndex + sends.flatten.length ≤ tcpBufferSize) :
    ∃ after, sends.foldlM send socket = .ok after := by
  induction sends generalizing socket with
  | nil =>
      exact ⟨socket, rfl⟩
  | cons data sends inductionHypothesis =>
      rw [List.flatten_cons, List.length_append] at room
      obtain ⟨middle, sent, index⟩ :=
        send_returns
          (show socket.nextSendValidIndex + data.length ≤ tcpBufferSize by
            omega)
      obtain ⟨after, later⟩ :=
        inductionHypothesis
          (show middle.nextSendValidIndex + sends.flatten.length ≤
              tcpBufferSize by
            omega)
      refine ⟨after, ?_⟩
      rw [List.foldlM_cons, sent]
      exact later

theorem send_error_iff
    {socket : TCPSocket} (data : List UInt8) (fits : socket.Fits) :
    socket.send data =
        .error (.outOfRange (max tcpBufferSize socket.nextSendValidIndex)) ↔
      tcpBufferSize < socket.nextSendValidIndex + data.length := by
  constructor
  · intro failed
    by_contra room
    obtain ⟨after, sent, _⟩ := send_returns (Nat.le_of_not_lt room)
    rw [sent] at failed
    cases failed
  · exact send_fails fits

theorem receive_returns
    {socket : TCPSocket} {ctrl : List UInt8} {received : RecvResult}
    {callback : RecvCallback}
    (room :
      socket.nextSendValidIndex +
          (socket.replies ctrl received callback).length ≤
        tcpBufferSize) :
    ∃ buffered,
      socket.receive ctrl received callback = .ok buffered := by
  rw [replies] at room
  rw [receive.eq_def]
  cases received with
  | failed errno =>
      exact ⟨socket, rfl⟩
  | delivered bytes control =>
      cases called :
          socket.reaction ctrl (.delivered bytes control) callback with
      | none =>
          exact ⟨socket, rfl⟩
      | some reaction =>
          rw [called] at room
          apply sends_return
          cases reaction.takesReceived <;> exact room

/-- The results of `::send` calls that take everything at once. -/
def takingAll (held : List UInt8) : List SendResult :=
  if held = [] then [] else [.accepted held.length]

theorem piecesInOrder_takingAll (held : List UInt8) :
    PiecesInOrder held 0 (takingAll held) := by
  rw [takingAll]
  by_cases nothing : held = []
  · rw [if_pos nothing]
    exact trivial
  · rw [if_neg nothing]
    exact piecesInOrder_all held

theorem sendLoop_takingAll
    {socket : TCPSocket} (fits : socket.Fits) (disconnected : Bool) :
    ∃ sent,
      socket.sendLoop disconnected
          (min tcpBufferSize socket.nextSendValidIndex : Nat)
          (takingAll socket.held) =
        some (disconnected, sent) := by
  rw [Nat.min_eq_right fits, takingAll, ← length_held]
  by_cases nothing : socket.held = []
  · rw [if_pos nothing, nothing]
    exact ⟨[], sendLoop_nil_iff.mpr ⟨Int.le_refl _, rfl, rfl⟩⟩
  · have length := length_held socket
    have anything := List.length_pos_iff.mpr nothing
    have more : (0 : Int) < socket.held.length := by omega
    have allowed :
        (SendResult.accepted socket.held.length).Allowed
          (min (socket.nextSendValidIndex : Int)
            (socket.held.length : Int)) :=
      ⟨anything, by omega⟩
    rw [if_neg nothing, sendLoop, if_pos more, if_pos allowed,
      Int.sub_self]
    exact ⟨_, rfl⟩

/-- A `ctrl` of zeros. -/
def emptyCtrl : List UInt8 :=
  List.replicate sizeofCtrl 0

end TCPSocket

/-- What the kernel does in one `sendAndRecv()`: the contents of `ctrl`, the
result of `recvmsg` and those of `::send`. -/
structure Transfer where
  ctrl : List UInt8
  received : RecvResult
  results : List SendResult

/-- What the callback of a read finds, when no bytes wait: nothing is called for
an empty read. -/
def RecvResult.messages (received : RecvResult) : List (List UInt8) :=
  if received.bytes = [] then [] else [received.bytes]

@[simp]
theorem RecvResult.flatten_messages (received : RecvResult) :
    received.messages.flatten = received.bytes := by
  rw [messages]
  by_cases nothing : received.bytes = []
  · rw [if_pos nothing, nothing]
    rfl
  · rw [if_neg nothing, List.flatten_singleton]

theorem no_answers (messages : List (List UInt8)) :
    (messages.flatMap fun _ => ([] : List (List UInt8))).flatten = [] := by
  simp

/-- One end of the connection: its socket, the bytes on their way to it, and
the messages that its callbacks found. -/
structure Endpoint where
  socket : TCPSocket
  incoming : List UInt8
  found : List (List UInt8)

namespace Endpoint

open TCPSocket

/-- `sendAndRecv()`, with the bytes it leaves to the kernel.  `recvmsg` takes
the next bytes of the stream; `none` when it does not, or the call does not
return. -/
def sendAndRecv
    (endpoint : Endpoint) (callback : RecvCallback) (transfer : Transfer) :
    Option (Endpoint × List UInt8) :=
  if transfer.received.bytes <+: endpoint.incoming then do
    let returned ←
      endpoint.socket.sendAndRecv transfer.ctrl transfer.received callback
        transfer.results
    return (
      { socket := returned.socket
        incoming := endpoint.incoming.drop transfer.received.bytes.length
        found :=
          if 0 < transfer.received.nRcv then
            endpoint.found ++
              [(endpoint.socket.deliver transfer.received.bytes).received]
          else
            endpoint.found },
      returned.sent)
  else
    none

/-- The pieces that `::send` takes are the bytes due. -/
def InOrder
    (endpoint : Endpoint) (callback : RecvCallback) (transfer : Transfer) : Prop :=
  PiecesInOrder
    (endpoint.socket.held ++
      endpoint.socket.replies transfer.ctrl transfer.received callback)
    0 transfer.results

/-- Between two calls: every message was taken, and the bytes held lie in the
buffer. -/
structure Idle (endpoint : Endpoint) : Prop where
  taken : endpoint.socket.Received []
  fits : endpoint.socket.Fits

theorem Idle.iovLen_eq {endpoint : Endpoint} (idle : endpoint.Idle) :
    endpoint.socket.iovLen = tcpBufferSize := by
  have iovec := idle.taken.iovec
  have contents := congrArg List.length idle.taken.contents
  rw [Buffer.length_cells, List.length_nil] at contents
  omega

section Answering

variable {endpoint after : Endpoint} {transfer : Transfer}
  {answers : List UInt8 → List (List UInt8)} {sent : List UInt8}

theorem nRcv_pos_iff (received : RecvResult) :
    0 < received.nRcv ↔ received.bytes ≠ [] := by
  cases received with
  | failed errno =>
      simp [RecvResult.nRcv, RecvResult.bytes]
  | delivered bytes control =>
      simp [RecvResult.nRcv, RecvResult.bytes, List.length_pos_iff]

/-- The callback is called for the message, if there is one. -/
theorem Idle.replies_answering
    (idle : endpoint.Idle) {received : RecvResult} (ctrl : List UInt8)
    (allowed : received.Allowed endpoint.socket.iovLen) :
    endpoint.socket.replies ctrl received (answering answers) =
      (received.messages.flatMap answers).flatten := by
  cases received with
  | failed errno =>
      rfl
  | delivered bytes control =>
      have contents := (idle.taken.deliver allowed.1).contents
      rw [replies, reaction, RecvResult.messages, RecvResult.bytes]
      by_cases anything : 0 < bytes.length
      · have nonempty : bytes ≠ [] := List.length_pos_iff.mp anything
        rw [if_pos anything, if_neg nonempty, List.flatMap_singleton]
        change (answers (endpoint.socket.deliver bytes).received).flatten = _
        rw [received, contents, List.nil_append]
      · have nothing : bytes = [] := by
          apply List.eq_nil_of_length_eq_zero
          omega
        rw [if_neg anything, if_pos nothing]
        rfl

/-- A callback that takes the message leaves nothing of it. -/
theorem Idle.taken_receive
    (idle : endpoint.Idle) {received : RecvResult} {ctrl : List UInt8}
    {buffered : TCPSocket}
    (allowed : received.Allowed endpoint.socket.iovLen)
    (receives :
      endpoint.socket.receive ctrl received (answering answers) =
        .ok buffered) :
    buffered.Received [] := by
  have readNow :
      buffered.Received
        (Incoming.afterRead ⟨endpoint.socket, [], 0, 0⟩ ctrl received
          (answering answers)) :=
    Incoming.received_of_receive idle.taken allowed receives
  have nothing :
      Incoming.afterRead ⟨endpoint.socket, [], 0, 0⟩ ctrl received
        (answering answers) = [] := by
    rw [Incoming.afterRead]
    cases received with
    | failed errno =>
        rfl
    | delivered bytes control =>
        by_cases anything : 0 < bytes.length
        · rw [reaction, if_pos anything]
          rfl
        · rw [reaction, if_neg anything, RecvResult.bytes]
          apply List.eq_nil_of_length_eq_zero
          simp only [Option.any_none, Bool.false_eq_true, if_false,
            List.nil_append]
          omega
  rw [nothing] at readNow
  exact readNow

/-- What a `sendAndRecv` does. -/
structure Transferred
    (endpoint : Endpoint) (answers : List UInt8 → List (List UInt8))
    (transfer : Transfer) (after : Endpoint) (sent : List UInt8) : Prop where
  idle : after.Idle
  flushed : after.socket.held = []
  incoming : endpoint.incoming = transfer.received.bytes ++ after.incoming
  found : after.found = endpoint.found ++ transfer.received.messages
  sent_iff :
    sent =
        endpoint.socket.held ++
          (transfer.received.messages.flatMap answers).flatten ↔
      endpoint.InOrder (answering answers) transfer

theorem Idle.transferred
    (idle : endpoint.Idle)
    (ran :
      endpoint.sendAndRecv (answering answers) transfer =
        some (after, sent)) :
    endpoint.Transferred answers transfer after sent := by
  by_cases next : transfer.received.bytes <+: endpoint.incoming
  · rw [sendAndRecv, if_pos next] at ran
    obtain ⟨returned, ranSocket, same⟩ := Option.bind_eq_some_iff.mp ran
    cases same
    have allowed := Incoming.allowed_of_sendAndRecv ranSocket
    obtain ⟨buffered, disconnected, receives, _, socketAfter⟩ :=
      TCPSocket.sendAndRecv_cases ranSocket
    have stepped :
        Outgoing.step ⟨endpoint.socket, [], []⟩
            (.sendAndRecv transfer.ctrl transfer.received
              (answering answers) transfer.results) =
          some
            ⟨returned.socket,
              [] ++ endpoint.socket.replies transfer.ctrl transfer.received
                (answering answers),
              [] ++ returned.sent⟩ := by
      rw [Outgoing.step, ranSocket]
      rfl
    obtain ⟨sentNow, emptied, _, accepted, _, sentIff⟩ :=
      Outgoing.sendAndRecv_step_cases idle.fits stepped
    have flushed : returned.socket.held = [] :=
      List.eq_nil_of_length_eq_zero ((length_held _).trans emptied)
    refine ⟨⟨?_, ?_⟩, flushed, ?_, ?_, ?_⟩
    · -- the send loop leaves the receive buffer alone
      apply (idle.taken_receive allowed receives).same
      rw [socketAfter]
      exact ⟨rfl, rfl⟩
    · rw [Fits, emptied]
      exact Nat.zero_le _
    · obtain ⟨rest, split⟩ := next
      simp only [← split, List.drop_left]
    · simp only [nRcv_pos_iff, RecvResult.messages, ite_not]
      by_cases nothing : transfer.received.bytes = []
      · rw [if_pos nothing, if_pos nothing, List.append_nil]
      · rw [if_neg nothing, if_neg nothing, received]
        have room :
            transfer.received.bytes.length ≤ endpoint.socket.iovLen := by
          cases found : transfer.received with
          | failed errno =>
              exact Nat.zero_le _
          | delivered bytes control =>
              rw [found] at allowed
              exact allowed.1
        rw [(idle.taken.deliver room).contents, List.nil_append]
    · have sameSent : returned.sent = sentNow := accepted
      rw [← idle.replies_answering transfer.ctrl allowed, sameSent]
      exact sentIff
  · rw [sendAndRecv, if_neg next] at ran
    cases ran

/-- The kernel can deliver the next bytes and take all the replies, when these
have room in the send buffer. -/
theorem Idle.exists_transfer
    (idle : endpoint.Idle) {chunk rest : List UInt8}
    (incoming : endpoint.incoming = chunk ++ rest)
    (short : chunk.length ≤ tcpBufferSize)
    (room :
      endpoint.socket.held.length +
          ((RecvResult.delivered chunk []).messages.flatMap
            answers).flatten.length ≤
        tcpBufferSize) :
    ∃ transfer after sent,
      endpoint.sendAndRecv (answering answers) transfer = some (after, sent) ∧
        endpoint.InOrder (answering answers) transfer ∧
        transfer.received = .delivered chunk [] := by
  have allowed :
      (RecvResult.delivered chunk []).Allowed endpoint.socket.iovLen := by
    rw [idle.iovLen_eq]
    exact ⟨short, Nat.zero_le _⟩
  have same :
      endpoint.socket.replies emptyCtrl (.delivered chunk [])
          (answering answers) =
        ((RecvResult.delivered chunk []).messages.flatMap
          answers).flatten :=
    idle.replies_answering emptyCtrl allowed
  rw [← same, length_held] at room
  obtain ⟨buffered, receives⟩ := receive_returns room
  have appends := receive_appends receives
  obtain ⟨sent, ran⟩ :=
    sendLoop_takingAll (appends.fits idle.fits) buffered.sendDisconnected
  refine ⟨⟨emptyCtrl, .delivered chunk [], takingAll buffered.held⟩, ?_⟩
  rw [sendAndRecv, if_pos ⟨rest, incoming.symm⟩, TCPSocket.sendAndRecv,
    if_pos allowed]
  simp only [receives, ran, Option.bind_eq_bind, Option.bind_some]
  refine ⟨_, _, rfl, ?_, trivial⟩
  rw [InOrder, appends.held]
  exact piecesInOrder_takingAll _

end Answering

/-- A endpoint whose socket is new. -/
def make (sendMemory rcvMemory : Buffer UInt8) : Endpoint where
  socket := TCPSocket.make sendMemory rcvMemory
  incoming := []
  found := []

theorem idle_make (sendMemory rcvMemory : Buffer UInt8) :
    (make sendMemory rcvMemory).Idle where
  taken := received_reset (TCPSocket.make sendMemory rcvMemory)
  fits := Nat.zero_le _

/-- Bytes that arrive at the kernel. -/
def arrive (endpoint : Endpoint) (bytes : List UInt8) : Endpoint :=
  { endpoint with incoming := endpoint.incoming ++ bytes }

@[simp]
theorem arrive_incoming (endpoint : Endpoint) (bytes : List UInt8) :
    (endpoint.arrive bytes).incoming = endpoint.incoming ++ bytes :=
  rfl

theorem Idle.arrive
    {endpoint : Endpoint} (idle : endpoint.Idle) (bytes : List UInt8) :
    (endpoint.arrive bytes).Idle :=
  ⟨idle.taken, idle.fits⟩

end Endpoint

end LowLatencyBlocks
