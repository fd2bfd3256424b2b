import LowLatencyBlocks.Library.Progress
import LowLatencyBlocks.Sockets.Endpoint

/-!
# The conversation of `program.cpp`

A client and the server's end of its connection, with the receive callbacks that
`sockets/program.cpp` installs: the server's answers every message it finds, the
client's only takes it.  Between the two sockets the kernel carries a byte
stream in each direction.

The lines that the callbacks log are left out, and so are the other clients,
whose connections share nothing with this one.
-/

namespace LowLatencyBlocks

open Library

/-- `"TCPServer received msg:"`. -/
def replyPrefix : List UInt8 :=
  "TCPServer received msg:".toList.map fun letter => letter.toNat.toUInt8

/-- `reply`. -/
def reply (message : List UInt8) : List UInt8 :=
  replyPrefix ++ message

def tcpServerRecvCallback : RecvCallback :=
  TCPSocket.answering fun message => [reply message]

def tcpClientRecvCallback : RecvCallback :=
  TCPSocket.answering fun _ => []

/-- Both ends of a connection, and what the program gave its client to send. -/
structure Conversation where
  client : Endpoint
  server : Endpoint
  submitted : List UInt8

/-- A call of the program on one of the two sockets. -/
inductive Turn where
  | submit (data : List UInt8)
  | client (transfer : Transfer)
  | server (transfer : Transfer)

namespace Conversation

open TCPSocket

/-- `none` when the call does not return, or leaves its buffer. -/
def step (conversation : Conversation) : Turn → Option Conversation
  | .submit data =>
      match conversation.client.socket.send data with
      | .ok socket =>
          some
            { conversation with
              client := { conversation.client with socket := socket }
              submitted := conversation.submitted ++ data }
      | .error _ => none
  | .client transfer => do
      let (client, sent) ←
        conversation.client.sendAndRecv tcpClientRecvCallback transfer
      return { conversation with
        client := client
        server := conversation.server.arrive sent }
  | .server transfer => do
      let (server, sent) ←
        conversation.server.sendAndRecv tcpServerRecvCallback transfer
      return { conversation with
        client := conversation.client.arrive sent
        server := server }

def start (client server : Buffer UInt8 × Buffer UInt8) : Conversation where
  client := Endpoint.make client.1 client.2
  server := Endpoint.make server.1 server.2
  submitted := []

/-- The `::send` calls of the turn deliver what is held. -/
def InOrder (before : Conversation) (turn : Turn) (_ : Conversation) : Prop :=
  match turn with
  | .submit _ => True
  | .client transfer =>
      before.client.InOrder tcpClientRecvCallback transfer
  | .server transfer =>
      before.server.InOrder tcpServerRecvCallback transfer

/-- The server found what was submitted, up to what is still on its way to it,
and its replies, one for each message, are on their way back or found. -/
structure Intact (conversation : Conversation) : Prop where
  heard :
    conversation.server.found.flatten ++ conversation.server.incoming ++
        conversation.client.socket.held =
      conversation.submitted
  answered :
    conversation.client.found.flatten ++ conversation.client.incoming =
      (conversation.server.found.map reply).flatten

/-- Between two turns both ends are idle, and the server holds nothing. -/
structure Idle (conversation : Conversation) : Prop where
  client : conversation.client.Idle
  server : conversation.server.Idle
  flushed : conversation.server.socket.held = []

theorem intact_start (client server : Buffer UInt8 × Buffer UInt8) :
    (start client server).Intact :=
  ⟨rfl, rfl⟩

theorem idle_start (client server : Buffer UInt8 × Buffer UInt8) :
    (start client server).Idle where
  client := Endpoint.idle_make client.1 client.2
  server := Endpoint.idle_make server.1 server.2
  flushed := rfl

section OneTurn

variable {before after : Conversation} {transfer : Transfer}

/-- What a `send` of the client does. -/
theorem submit_cases
    {data : List UInt8} (stepped : before.step (.submit data) = some after) :
    ∃ socket,
      before.client.socket.send data = .ok socket ∧
        after =
          { before with
            client := { before.client with socket := socket }
            submitted := before.submitted ++ data } := by
  rw [step] at stepped
  cases sent : before.client.socket.send data with
  | error fault =>
      simp only [sent] at stepped
      cases stepped
  | ok socket =>
      simp only [sent] at stepped
      cases stepped
      exact ⟨socket, rfl, rfl⟩

/-- What a turn of the client does. -/
theorem Idle.client_cases
    (idle : before.Idle)
    (stepped : before.step (.client transfer) = some after) :
    ∃ sent,
      before.client.Transferred (fun _ => []) transfer after.client sent ∧
        after.server = before.server.arrive sent ∧
        after.submitted = before.submitted := by
  obtain ⟨⟨client, sent⟩, ran, same⟩ := Option.bind_eq_some_iff.mp stepped
  cases same
  exact ⟨sent, idle.client.transferred ran, rfl, rfl⟩

/-- What a turn of the server does. -/
theorem Idle.server_cases
    (idle : before.Idle)
    (stepped : before.step (.server transfer) = some after) :
    ∃ sent,
      before.server.Transferred (fun message => [reply message]) transfer
          after.server sent ∧
        after.client = before.client.arrive sent ∧
        after.submitted = before.submitted := by
  obtain ⟨⟨server, sent⟩, ran, same⟩ := Option.bind_eq_some_iff.mp stepped
  cases same
  exact ⟨sent, idle.server.transferred ran, rfl, rfl⟩

theorem Idle.next
    (idle : before.Idle) {turn : Turn}
    (stepped : before.step turn = some after) :
    after.Idle := by
  cases turn with
  | submit data =>
      obtain ⟨socket, sent, rfl⟩ := submit_cases stepped
      refine ⟨⟨?_, ?_⟩, idle.server, idle.flushed⟩
      · exact idle.client.taken.same (sameReceived_send sent)
      · exact (send_appends sent).fits idle.client.fits
  | client transfer =>
      obtain ⟨sent, done, server, _⟩ := idle.client_cases stepped
      refine ⟨done.idle, ?_, ?_⟩
      · rw [server]
        exact idle.server.arrive sent
      · rw [server]
        exact idle.flushed
  | server transfer =>
      obtain ⟨sent, done, client, _⟩ := idle.server_cases stepped
      refine ⟨?_, done.idle, done.flushed⟩
      rw [client]
      exact idle.client.arrive sent

/-- A turn keeps the conversation intact exactly when its pieces are the bytes
that were due. -/
theorem Idle.intact_iff
    (idle : before.Idle) (intact : before.Intact) {turn : Turn}
    (stepped : before.step turn = some after) :
    after.Intact ↔ InOrder before turn after := by
  cases turn with
  | submit data =>
      obtain ⟨socket, sent, rfl⟩ := submit_cases stepped
      refine iff_of_true ⟨?_, intact.answered⟩ trivial
      rw [(send_appends sent).held, ← List.append_assoc, intact.heard]
  | client transfer =>
      obtain ⟨sent, done, server, submitted⟩ := idle.client_cases stepped
      have orderIff := done.sent_iff
      rw [no_answers, List.append_nil] at orderIff
      have answered :
          after.client.found.flatten ++ after.client.incoming =
            (after.server.found.map reply).flatten := by
        rw [server, done.found, List.flatten_append,
          RecvResult.flatten_messages, List.append_assoc, ← done.incoming]
        exact intact.answered
      have heardIff :
          after.server.found.flatten ++ after.server.incoming ++
              after.client.socket.held =
            after.submitted ↔ sent = before.client.socket.held := by
        rw [server, done.flushed, submitted, ← intact.heard,
          List.append_nil, Endpoint.arrive_incoming, ← List.append_assoc]
        exact List.append_right_inj _
      constructor
      · intro intactAfter
        exact orderIff.mp (heardIff.mp intactAfter.heard)
      · intro order
        exact ⟨heardIff.mpr (orderIff.mpr order), answered⟩
  | server transfer =>
      obtain ⟨sent, done, client, submitted⟩ := idle.server_cases stepped
      have orderIff := done.sent_iff
      rw [idle.flushed, List.nil_append, ← List.map_eq_flatMap] at orderIff
      have heard :
          after.server.found.flatten ++ after.server.incoming ++
              after.client.socket.held =
            after.submitted := by
        rw [client, submitted, ← intact.heard, done.found,
          List.flatten_append, RecvResult.flatten_messages,
          List.append_assoc _ _ after.server.incoming, ← done.incoming]
        rfl
      have answeredIff :
          after.client.found.flatten ++ after.client.incoming =
              (after.server.found.map reply).flatten ↔
            sent = (transfer.received.messages.map reply).flatten := by
        rw [client, done.found, List.map_append, List.flatten_append,
          ← intact.answered, Endpoint.arrive_incoming, ← List.append_assoc]
        exact List.append_right_inj _
      constructor
      · intro intactAfter
        exact orderIff.mp (answeredIff.mp intactAfter.answered)
      · intro order
        exact ⟨heard, answeredIff.mpr (orderIff.mpr order)⟩

end OneTurn

/-- A run in order leaves its conversation intact. -/
theorem intact_of_inOrder
    {client server : Buffer UInt8 × Buffer UInt8} {turns : List Turn}
    {conversation : Conversation}
    (order : EachStep step InOrder turns (start client server))
    (ran : exec step turns (start client server) = some conversation) :
    conversation.Intact := by
  have kept : conversation.Idle ∧ conversation.Intact := by
    apply
      order.invariant
        (fun conversation => conversation.Idle ∧ conversation.Intact) _ _ ran
    · intro before turn after kept stepped inOrder
      exact
        ⟨kept.1.next stepped,
          (kept.1.intact_iff kept.2 stepped).mpr inOrder⟩
    · exact ⟨idle_start client server, intact_start client server⟩
  exact kept.2

/-- The conversation is intact after every turn exactly when the pieces of
every `::send` are the bytes that were due: then nothing is lost, repeated or
answered twice. -/
theorem echo_intact_iff
    (client server : Buffer UInt8 × Buffer UInt8) (turns : List Turn) :
    EachStep step (fun _ _ after => after.Intact) turns
        (start client server) ↔
      EachStep step InOrder turns (start client server) := by
  have agree :
      ∀ {before : Conversation} {turn : Turn} {after : Conversation},
        before.Idle ∧ before.Intact →
        step before turn = some after →
        (after.Intact ↔ InOrder before turn after) :=
    fun kept stepped => kept.1.intact_iff kept.2 stepped
  have kept :
      ∀ {before : Conversation} {turn : Turn} {after : Conversation},
        before.Idle ∧ before.Intact →
        step before turn = some after →
        after.Intact → after.Idle ∧ after.Intact :=
    fun kept stepped intact => ⟨kept.1.next stepped, intact⟩
  exact
    eachStep_congr agree kept turns
      ⟨idle_start client server, intact_start client server⟩

/-- The server's read leaves its send buffer with the reply exactly when the
message and `replyPrefix` do not fit in it together; `recvmsg` may deliver
messages of all lengths up to that of the buffer. -/
theorem reply_leaves_buffer_iff
    (client server : Buffer UInt8 × Buffer UInt8) (turns : List Turn)
    (conversation : Conversation)
    (ran : exec step turns (start client server) = some conversation) :
    conversation.server.socket.iovLen = tcpBufferSize ∧
      ∀ ctrl bytes control,
        (RecvResult.delivered bytes control).Allowed
            conversation.server.socket.iovLen →
        bytes ≠ [] →
        (conversation.server.socket.receive ctrl (.delivered bytes control)
              tcpServerRecvCallback =
            .error (.outOfRange tcpBufferSize) ↔
          tcpBufferSize < replyPrefix.length + bytes.length) := by
  have idle : conversation.Idle := by
    apply exec_invariant Idle _ (idle_start client server) ran
    intro before turn after idle stepped
    exact idle.next stepped
  refine ⟨idle.server.iovLen_eq, ?_⟩
  intro ctrl bytes control allowed anything
  have nothingHeld : conversation.server.socket.nextSendValidIndex = 0 := by
    rw [← length_held, idle.flushed]
    rfl
  have delivered := idle.server.taken.deliver allowed.1
  have length : (reply bytes).length = replyPrefix.length + bytes.length :=
    List.length_append
  have replies :
      conversation.server.socket.receive ctrl (.delivered bytes control)
          tcpServerRecvCallback =
        [reply bytes].foldlM send
          { conversation.server.socket.deliver bytes with
            nextRcvValidIndex := 0 } := by
    have found :
        (conversation.server.socket.deliver bytes).received = bytes :=
      delivered.contents.trans (List.nil_append _)
    rw [receive.eq_def, reaction, if_pos (List.length_pos_iff.mpr anything)]
    simp only [tcpServerRecvCallback, answering, found, if_true]
  have sendsOne :
      ∀ socket : TCPSocket,
        [reply bytes].foldlM send socket = socket.send (reply bytes) := by
    intro socket
    rw [List.foldlM_cons]
    exact bind_pure _
  have leavesIff :=
    send_error_iff (reply bytes)
      (show
        Fits
          { conversation.server.socket.deliver bytes with
            nextRcvValidIndex := 0 }
        from idle.server.fits)
  have index :
      (conversation.server.socket.deliver bytes).nextSendValidIndex = 0 :=
    nothingHeld
  rw [replies, sendsOne, ← length]
  simpa only [index, Nat.max_zero, Nat.zero_add] using leavesIff

/-! ## How it ends -/

def machine (client server : Buffer UInt8 × Buffer UInt8) :
    Machine Conversation Turn where
  start := start client server
  step := fun turn before after => before.step turn = some after

/-- The runs whose turns all keep the conversation intact. -/
def inOrder (turn : Turn) (before after : Conversation) : Prop :=
  InOrder before turn after

/-- Nothing is held by the client, and nothing is on its way. -/
def Settled (conversation : Conversation) : Prop :=
  conversation.client.socket.held = [] ∧
    conversation.server.incoming = [] ∧
    conversation.client.incoming = []

/-- The bytes still to be moved, each with the moves it causes: one submitted
byte may become a message, whose reply is `replyPrefix` longer. -/
def pending (conversation : Conversation) : Nat :=
  (replyPrefix.length + 3) * conversation.client.socket.held.length +
    (replyPrefix.length + 2) * conversation.server.incoming.length +
    conversation.client.incoming.length

section Settling

variable {conversation : Conversation}

/-- Then everything was found. -/
theorem Settled.complete
    (settled : conversation.Settled) (intact : conversation.Intact) :
    conversation.server.found.flatten = conversation.submitted ∧
      conversation.client.found.flatten =
        (conversation.server.found.map reply).flatten := by
  obtain ⟨held, toServer, toClient⟩ := settled
  have heard := intact.heard
  have answered := intact.answered
  rw [held, toServer, List.append_nil, List.append_nil] at heard
  rw [toClient, List.append_nil] at answered
  exact ⟨heard, answered⟩

theorem replyPrefix_length : replyPrefix.length = 23 := by
  decide

/-- The client sends what it holds, and reads the next bytes. -/
theorem Idle.exists_client
    (idle : conversation.Idle) {chunk rest : List UInt8}
    (incoming : conversation.client.incoming = chunk ++ rest)
    (short : chunk.length ≤ tcpBufferSize) :
    ∃ transfer next,
      conversation.step (.client transfer) = some next ∧
        InOrder conversation (.client transfer) next ∧
        next.submitted = conversation.submitted ∧
        next.client.socket.held = [] ∧
        next.server.incoming =
          conversation.server.incoming ++ conversation.client.socket.held ∧
        next.client.incoming = rest := by
  have room :
      conversation.client.socket.held.length +
          ((RecvResult.delivered chunk []).messages.flatMap
            fun _ => ([] : List (List UInt8))).flatten.length ≤
        tcpBufferSize := by
    rw [no_answers, length_held]
    exact idle.client.fits
  obtain ⟨transfer, after, sent, ran, order, delivered⟩ :=
    idle.client.exists_transfer incoming short room
  have done := idle.client.transferred ran
  refine ⟨transfer, ⟨after, conversation.server.arrive sent, _⟩, ?_, order,
    rfl, done.flushed, ?_, ?_⟩
  · rw [step, tcpClientRecvCallback, ran]
    rfl
  · rw [Endpoint.arrive, done.sent_iff.mpr order, no_answers,
      List.append_nil]
  · have split := done.incoming
    rw [incoming, delivered] at split
    exact (List.append_cancel_left split).symm

/-- The server reads the next bytes and sends its replies, when these have room
in its send buffer. -/
theorem Idle.exists_server_reading
    (idle : conversation.Idle) {chunk rest replies : List UInt8}
    (incoming : conversation.server.incoming = chunk ++ rest)
    (short : chunk.length ≤ tcpBufferSize)
    (answers :
      ((RecvResult.delivered chunk []).messages.flatMap
        fun message => [reply message]).flatten = replies)
    (room : replies.length ≤ tcpBufferSize) :
    ∃ transfer next,
      conversation.step (.server transfer) = some next ∧
        InOrder conversation (.server transfer) next ∧
        next.submitted = conversation.submitted ∧
        next.client.socket.held = conversation.client.socket.held ∧
        next.server.incoming = rest ∧
        next.client.incoming = conversation.client.incoming ++ replies := by
  have roomBoth :
      conversation.server.socket.held.length +
          ((RecvResult.delivered chunk []).messages.flatMap
            fun message => [reply message]).flatten.length ≤
        tcpBufferSize := by
    rw [answers, idle.flushed, List.length_nil, Nat.zero_add]
    exact room
  obtain ⟨transfer, after, sent, ran, order, delivered⟩ :=
    idle.server.exists_transfer incoming short roomBoth
  have done := idle.server.transferred ran
  refine ⟨transfer, ⟨conversation.client.arrive sent, after, _⟩, ?_, order,
    rfl, rfl, ?_, ?_⟩
  · rw [step, tcpServerRecvCallback, ran]
    rfl
  · have split := done.incoming
    rw [incoming, delivered] at split
    exact (List.append_cancel_left split).symm
  · rw [Endpoint.arrive, done.sent_iff.mpr order, idle.flushed,
      List.nil_append, delivered, answers]

/-- The server finds one byte and replies to it. -/
theorem Idle.exists_server
    (idle : conversation.Idle) {byte : UInt8} {rest : List UInt8}
    (incoming : conversation.server.incoming = byte :: rest) :
    ∃ transfer next,
      conversation.step (.server transfer) = some next ∧
        InOrder conversation (.server transfer) next ∧
        next.submitted = conversation.submitted ∧
        next.client.socket.held = conversation.client.socket.held ∧
        next.server.incoming = rest ∧
        next.client.incoming =
          conversation.client.incoming ++ reply [byte] := by
  have replies :
      ((RecvResult.delivered [byte] []).messages.flatMap
          fun message => [reply message]).flatten =
        reply [byte] :=
    List.append_nil _
  apply idle.exists_server_reading incoming _ replies
  · rw [reply, List.length_append, replyPrefix_length]
    simp [tcpBufferSize]
  · simp [tcpBufferSize]

/-- The client can always move, and takes what it holds or what is on its way
to it further. -/
theorem Idle.exists_client_turn (idle : conversation.Idle) :
    ∃ transfer next,
      conversation.step (.client transfer) = some next ∧
        InOrder conversation (.client transfer) next ∧
        next.submitted = conversation.submitted ∧
        (conversation.client.socket.held ≠ [] ∨
            conversation.client.incoming ≠ [] →
          next.pending < conversation.pending) := by
  have length := replyPrefix_length
  have chunked :
      ∃ chunk rest,
        conversation.client.incoming = chunk ++ rest ∧
          chunk.length ≤ tcpBufferSize ∧
          (conversation.client.incoming ≠ [] →
            rest.length < conversation.client.incoming.length) ∧
          rest.length ≤ conversation.client.incoming.length := by
    cases toClient : conversation.client.incoming with
    | nil =>
        exact ⟨[], [], rfl, Nat.zero_le _, by simp, Nat.le_refl _⟩
    | cons byte rest =>
        have short : [byte].length ≤ tcpBufferSize := by
          simp [tcpBufferSize]
        exact ⟨[byte], rest, rfl, short, by simp, by simp⟩
  obtain ⟨chunk, rest, split, short, shorter, notLonger⟩ := chunked
  obtain
    ⟨transfer, next, stepped, order, submitted, heldAfter, toServerAfter,
      toClientAfter⟩ :=
    idle.exists_client split short
  refine ⟨transfer, next, stepped, order, submitted, ?_⟩
  intro anything
  have fewer :
      0 < conversation.client.socket.held.length ∨
        rest.length < conversation.client.incoming.length :=
    anything.imp List.length_pos_iff.mpr shorter
  rw [pending, pending, heldAfter, toServerAfter, toClientAfter]
  simp only [List.length_append, List.length_nil, length]
  omega

/-- The server can always move, and takes what is on its way to it further. -/
theorem Idle.exists_server_turn (idle : conversation.Idle) :
    ∃ transfer next,
      conversation.step (.server transfer) = some next ∧
        InOrder conversation (.server transfer) next ∧
        next.submitted = conversation.submitted ∧
        next.pending ≤ conversation.pending ∧
        (conversation.server.incoming ≠ [] →
          next.pending < conversation.pending) := by
  have length := replyPrefix_length
  cases toServer : conversation.server.incoming with
  | nil =>
      obtain
        ⟨transfer, next, stepped, order, submitted, heldAfter,
          toServerAfter, toClientAfter⟩ :=
        @Idle.exists_server_reading _ idle [] [] [] toServer
          (Nat.zero_le _) rfl (Nat.zero_le _)
      refine ⟨transfer, next, stepped, order, submitted, ?_, ?_⟩
      · rw [pending, pending, heldAfter, toServerAfter, toClientAfter,
          toServer, List.append_nil]
      · intro something
        exact absurd rfl something
  | cons byte rest =>
      obtain
        ⟨transfer, next, stepped, order, submitted, heldAfter,
          toServerAfter, toClientAfter⟩ :=
        idle.exists_server toServer
      have lower : next.pending < conversation.pending := by
        rw [pending, pending, heldAfter, toServerAfter, toClientAfter,
          toServer, reply]
        simp only [List.length_append, List.length_cons, List.length_nil,
          length]
        omega
      exact
        ⟨transfer, next, stepped, order, submitted, Nat.le_of_lt lower,
          fun _ => lower⟩

/-- While something is on its way, a turn takes it further. -/
theorem Idle.progress
    (idle : conversation.Idle) (unsettled : ¬ conversation.Settled) :
    ∃ turn next,
      conversation.step turn = some next ∧
        InOrder conversation turn next ∧
        next.submitted = conversation.submitted ∧
        next.pending < conversation.pending := by
  by_cases toServer : conversation.server.incoming = []
  · have clientMoves :
        conversation.client.socket.held ≠ [] ∨
          conversation.client.incoming ≠ [] := by
      by_contra nothing
      rw [not_or, not_not, not_not] at nothing
      exact unsettled ⟨nothing.1, toServer, nothing.2⟩
    obtain ⟨transfer, next, stepped, order, submitted, lower⟩ :=
      idle.exists_client_turn
    exact
      ⟨.client transfer, next, stepped, order, submitted,
        lower clientMoves⟩
  · obtain ⟨transfer, next, stepped, order, submitted, _, lower⟩ :=
      idle.exists_server_turn
    exact
      ⟨.server transfer, next, stepped, order, submitted, lower toServer⟩

theorem idle_and_intact_of_reachable
    {client server : Buffer UInt8 × Buffer UInt8}
    (reached : (machine client server).Reachable inOrder conversation) :
    conversation.Idle ∧ conversation.Intact := by
  apply
    reached.invariant (fun state => state.Idle ∧ state.Intact)
      ⟨idle_start client server, intact_start client server⟩
  rintro turn before after ⟨idle, intact⟩ stepped order
  exact
    ⟨idle.next stepped, (idle.intact_iff intact stepped).mpr order⟩

end Settling

/-- From every state that the conversation reaches in order, it can be brought
to its end: the server has then found everything submitted, and the client the
replies to it. -/
theorem echo_completes
    (client server : Buffer UInt8 × Buffer UInt8)
    (conversation : Conversation)
    (reached : (machine client server).Reachable inOrder conversation) :
    ∃ final,
      (machine client server).Leads inOrder conversation final ∧
        final.submitted = conversation.submitted ∧
        final.server.found.flatten = conversation.submitted ∧
        final.client.found.flatten =
          (final.server.found.map reply).flatten := by
  have settles :
      ∃ final,
        (machine client server).Leads inOrder conversation final ∧
          (final.Idle ∧
            final.Intact ∧ final.submitted = conversation.submitted) ∧
          final.Settled := by
    obtain ⟨idle, intact⟩ := idle_and_intact_of_reachable reached
    apply
      Machine.leads_of_measure
        (fun state : Conversation =>
          state.Idle ∧
            state.Intact ∧ state.submitted = conversation.submitted)
        Settled pending _ ⟨idle, intact, rfl⟩
    rintro state ⟨idle, intact, submitted⟩ unsettled
    obtain ⟨turn, next, stepped, order, same, lower⟩ :=
      idle.progress unsettled
    refine ⟨turn, next, stepped, order, ⟨idle.next stepped, ?_, ?_⟩, lower⟩
    · exact (idle.intact_iff intact stepped).mpr order
    · exact same.trans submitted
  obtain ⟨final, run, ⟨_, intact, submitted⟩, settled⟩ := settles
  obtain ⟨heard, answered⟩ := settled.complete intact
  exact ⟨final, run, submitted, heard.trans submitted, answered⟩

/-- The client submits two bytes and the kernel takes them. -/
def sampleTurns : List Turn :=
  [.submit [104, 105],
    .client ⟨emptyCtrl, .failed ewouldblock, [.accepted 2]⟩]

def zeroBuffers : Buffer UInt8 × Buffer UInt8 :=
  (fun _ => 0, fun _ => 0)

theorem reply_leaves_buffer_sample :
    ∃ conversation,
      exec step sampleTurns (start zeroBuffers zeroBuffers) =
          some conversation ∧
        (conversation.server.socket.receive emptyCtrl
              (.delivered [104, 105] []) tcpServerRecvCallback =
            .error (.outOfRange tcpBufferSize) ↔
          tcpBufferSize < replyPrefix.length + 2) := by
  have ranAll :
      ∃ conversation,
        exec step sampleTurns (start zeroBuffers zeroBuffers) =
          some conversation :=
    ⟨_, rfl⟩
  obtain ⟨conversation, ran⟩ := ranAll
  obtain ⟨iovLen, leavesIff⟩ :=
    reply_leaves_buffer_iff zeroBuffers zeroBuffers sampleTurns conversation
      ran
  refine ⟨conversation, ran, leavesIff _ _ _ ?_ (by decide)⟩
  rw [iovLen]
  simp [RecvResult.Allowed, tcpBufferSize]

theorem echo_completes_sample :
    ∃ conversation final,
      (machine zeroBuffers zeroBuffers).Reachable inOrder conversation ∧
        conversation.submitted = [104, 105] ∧
        (machine zeroBuffers zeroBuffers).Leads inOrder conversation final ∧
        final.server.found.flatten = [104, 105] := by
  have submits :
      ∃ held,
        (start zeroBuffers zeroBuffers).step (.submit [104, 105]) =
            some held ∧
          held.submitted = [104, 105] :=
    ⟨_, rfl, rfl⟩
  obtain ⟨held, stepped, submitted⟩ := submits
  have reached :
      (machine zeroBuffers zeroBuffers).Reachable inOrder held :=
    Machine.Reachable.start.next stepped trivial
  obtain ⟨final, run, _, heard, _⟩ :=
    echo_completes zeroBuffers zeroBuffers held reached
  exact ⟨held, final, reached, submitted, run, heard.trans submitted⟩

end Conversation

end LowLatencyBlocks
