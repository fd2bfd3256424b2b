import LowLatencyBlocks.Sockets.DescriptorOwners
import LowLatencyBlocks.Sockets.IncomingStream

/-!
# Connecting a socket again

`connect` closes the descriptor and takes a new one, but leaves both buffers of
the socket alone.  What was held for the old connection is sent on the new one,
and what was received on the old one stays before the bytes of the new one.  So
a connection is on its own exactly when both indexes are zero at its `connect`.
-/

namespace LowLatencyBlocks

open Library

namespace TCPSocket

/-- A call on a socket that may be connected more than once. -/
inductive SocketCall where
  | connect
      (tIp ifaceIP : List Char) (isListening : Bool)
      (result : Option (List Answers))
  | destory
  | transfer (call : Call)

/-- A socket with its descriptor, and what went through it since its last
`connect`: the bytes submitted, those that the kernel accepted, and those
received since a callback last took them. -/
structure Connected where
  socket : TCPSocket
  fd : Int
  submitted : List UInt8
  accepted : List UInt8
  received : List UInt8

namespace Connected

def start (sendMemory rcvMemory : Buffer UInt8) : Connected where
  socket := make sendMemory rcvMemory
  fd := -1
  submitted := []
  accepted := []
  received := []

/-- `connect(ip, iface, port, is_listening)`, with the outcome of
`createSocket`. -/
def connect
    (connected : Connected) (created : SocketRequest.Created) : Connected where
  socket := connected.socket
  fd := created.returned
  submitted := []
  accepted := []
  received := []

/-- One call; `none` when it does not return, or leaves the buffer. -/
def step (connected : Connected) : SocketCall → Option Connected
  | .connect tIp ifaceIP isListening result =>
      let request := SocketRequest.ofConnect tIp ifaceIP isListening
      some (connected.connect (request.createSocket result))
  | .destory => some { connected with fd := -1 }
  | .transfer call => do
      let outgoing ←
        Outgoing.step
          ⟨connected.socket, connected.submitted, connected.accepted⟩ call
      let incoming ←
        Incoming.step ⟨connected.socket, connected.received, 0, 0⟩ call
      return { connected with
        socket := outgoing.socket
        submitted := outgoing.submitted
        accepted := outgoing.accepted
        received := incoming.sinceReset }

/-- The `::send` calls deliver what is held. -/
def InOrder (before : Connected) (call : SocketCall) (_ : Connected) : Prop :=
  match call with
  | .transfer (.sendAndRecv ctrl received callback results) =>
      PiecesInOrder
        (before.socket.held ++ before.socket.replies ctrl received callback)
        0 results
  | _ => True

/-- Nothing but the bytes of this connection is sent on it, and nothing else is
found behind it. -/
structure Isolated (connected : Connected) : Prop where
  sent :
    connected.accepted ++ connected.socket.held = connected.submitted
  found : connected.socket.Received connected.received

/-- A `connect` finds both buffers empty. -/
def ConnectsEmpty
    (before : Connected) (call : SocketCall) (_ : Connected) : Prop :=
  match call with
  | .connect _ _ _ _ =>
      before.socket.nextSendValidIndex = 0 ∧
        before.socket.nextRcvValidIndex = 0
  | _ => True

section OneCall

variable {before after : Connected}

/-- What a `send` or a `sendAndRecv` does. -/
theorem transfer_cases
    {call : Call} (stepped : before.step (.transfer call) = some after) :
    ∃ outgoing incoming,
      Outgoing.step ⟨before.socket, before.submitted, before.accepted⟩ call =
          some outgoing ∧
        Incoming.step ⟨before.socket, before.received, 0, 0⟩ call =
          some incoming ∧
        after =
          ⟨outgoing.socket, before.fd, outgoing.submitted,
            outgoing.accepted, incoming.sinceReset⟩ := by
  obtain ⟨outgoing, sends, rest⟩ := Option.bind_eq_some_iff.mp stepped
  obtain ⟨incoming, receives, same⟩ := Option.bind_eq_some_iff.mp rest
  cases same
  exact ⟨outgoing, incoming, sends, receives, rfl⟩

/-- Both of them go on with the same socket. -/
theorem socket_eq
    {outgoing nextOutgoing : Outgoing} {incoming nextIncoming : Incoming}
    {call : Call} (same : incoming.socket = outgoing.socket)
    (sends : outgoing.step call = some nextOutgoing)
    (receives : incoming.step call = some nextIncoming) :
    nextIncoming.socket = nextOutgoing.socket := by
  cases call with
  | send data =>
      obtain ⟨socket, sent, left⟩ := Outgoing.send_step_cases sends
      rw [Incoming.step, same, sent] at receives
      cases receives
      rw [left]
  | sendAndRecv ctrl received callback results =>
      obtain ⟨returned, ran, left⟩ := Option.bind_eq_some_iff.mp sends
      cases left
      obtain ⟨again, ranAgain, left⟩ := Option.bind_eq_some_iff.mp receives
      rw [same, ran] at ranAgain
      cases ranAgain
      cases left
      rfl

theorem found_transfer
    (found : before.socket.Received before.received)
    {call : Call} (stepped : before.step (.transfer call) = some after) :
    after.socket.Received after.received := by
  obtain ⟨outgoing, incoming, sends, receives, left⟩ := transfer_cases stepped
  have same := socket_eq rfl sends receives
  have accounts :
      Incoming.Accounts ⟨before.socket, before.received, 0, 0⟩ :=
    ⟨found, rfl⟩
  have read := (accounts.next receives).received
  rw [same] at read
  rw [left]
  exact read

theorem fits_next
    (fits : before.socket.Fits) {call : SocketCall}
    (stepped : before.step call = some after) : after.socket.Fits := by
  cases call with
  | connect tIp ifaceIP isListening result =>
      cases stepped
      exact fits
  | destory =>
      cases stepped
      exact fits
  | transfer call =>
      obtain ⟨outgoing, incoming, sends, _, left⟩ := transfer_cases stepped
      rw [left]
      cases call with
      | send data =>
          obtain ⟨socket, sent, next⟩ := Outgoing.send_step_cases sends
          rw [next]
          exact (send_appends sent).fits fits
      | sendAndRecv ctrl received callback results =>
          obtain ⟨_, emptied, _⟩ :=
            Outgoing.sendAndRecv_step_cases fits sends
          rw [Fits, emptied]
          exact Nat.zero_le _

theorem Isolated.transfer
    (isolated : before.Isolated) (fits : before.socket.Fits)
    {call : Call} (stepped : before.step (.transfer call) = some after)
    (order : InOrder before (.transfer call) after) : after.Isolated := by
  refine ⟨?_, found_transfer isolated.found stepped⟩
  obtain ⟨outgoing, incoming, sends, _, left⟩ := transfer_cases stepped
  rw [left]
  cases call with
  | send data =>
      obtain ⟨socket, sent, next⟩ := Outgoing.send_step_cases sends
      rw [next]
      dsimp only
      rw [(send_appends sent).held, ← List.append_assoc, isolated.sent]
  | sendAndRecv ctrl received callback results =>
      obtain ⟨sent, emptied, _, accepted, submitted, sentIff⟩ :=
        Outgoing.sendAndRecv_step_cases fits sends
      have nothingHeld : outgoing.socket.held = [] :=
        List.eq_nil_of_length_eq_zero ((length_held _).trans emptied)
      rw [nothingHeld, accepted, submitted, List.append_nil,
        sentIff.mpr order, ← List.append_assoc, isolated.sent]

/-- A new connection is on its own exactly when both buffers are empty. -/
theorem isolated_connect_iff (created : SocketRequest.Created) :
    (before.connect created).Isolated ↔
      before.socket.nextSendValidIndex = 0 ∧
        before.socket.nextRcvValidIndex = 0 := by
  constructor
  · intro isolated
    have nothingHeld : before.socket.held = [] := isolated.sent
    have nothingFound :
        before.socket.rcvBuffer.cells 0 before.socket.nextRcvValidIndex = [] :=
      isolated.found.contents
    constructor
    · rw [← length_held, nothingHeld, List.length_nil]
    · have length := congrArg List.length nothingFound
      rw [Buffer.length_cells] at length
      exact length
  · intro empty
    obtain ⟨nothingHeld, nothingFound⟩ := empty
    constructor
    · exact List.eq_nil_of_length_eq_zero ((length_held _).trans nothingHeld)
    · apply received_of_contents
      · change before.socket.nextRcvValidIndex ≤ tcpBufferSize
        rw [nothingFound]
        exact Nat.zero_le _
      · change
          before.socket.rcvBuffer.cells 0 before.socket.nextRcvValidIndex =
            []
        rw [nothingFound]
        rfl

end OneCall

/-- In every run of `connect`, `destory`, `send` and `sendAndRecv` whose
`::send` calls deliver what is held, each connection carries its own bytes only,
in both directions and after every call, exactly when every `connect` finds both
buffers empty. -/
theorem connections_isolated_iff
    (sendMemory rcvMemory : Buffer UInt8) (calls : List SocketCall)
    (order : EachStep step InOrder calls (start sendMemory rcvMemory)) :
    EachStep step (fun _ _ after => after.Isolated) calls
        (start sendMemory rcvMemory) ↔
      EachStep step ConnectsEmpty calls (start sendMemory rcvMemory) := by
  have agree :
      ∀ before call after,
        before.Isolated ∧ before.socket.Fits →
        step before call = some after →
        InOrder before call after →
        (after.Isolated ↔ ConnectsEmpty before call after) := by
    intro before call after kept stepped promise
    cases call with
    | connect tIp ifaceIP isListening result =>
        cases stepped
        exact isolated_connect_iff _
    | destory =>
        cases stepped
        exact iff_of_true ⟨kept.1.sent, kept.1.found⟩ trivial
    | transfer call =>
        exact iff_of_true (kept.1.transfer kept.2 stepped promise) trivial
  have initial :
      (start sendMemory rcvMemory).Isolated ∧
        (start sendMemory rcvMemory).socket.Fits :=
    ⟨⟨rfl, received_reset (make sendMemory rcvMemory)⟩, Nat.zero_le _⟩
  apply order.congr agree _ initial
  intro before call after kept stepped _ isolated
  exact ⟨isolated, fits_next kept.2 stepped⟩

/-- Two bytes are submitted on one connection and left for the next one. -/
def sampleReconnect : List SocketCall :=
  [.connect ['0'] [] false (some [SocketRequest.goodAddress 3]),
    .transfer (.send [104, 105]), .destory,
    .connect ['0'] [] false (some [SocketRequest.goodAddress 4])]

theorem connections_isolated_sample :
    (∃ connected,
      exec step sampleReconnect (start (fun _ => 0) (fun _ => 0)) =
          some connected ∧
        connected.fd = 4 ∧ connected.socket.held = [104, 105]) ∧
      ¬ EachStep step (fun _ _ after => after.Isolated) sampleReconnect
        (start (fun _ => 0) (fun _ => 0)) := by
  refine ⟨⟨_, rfl, rfl, rfl⟩, ?_⟩
  have order :
      EachStep step InOrder sampleReconnect
        (start (fun _ => 0) (fun _ => 0)) := by
    intro connected connects
    refine ⟨trivial, ?_⟩
    intro submitted sent
    refine ⟨trivial, ?_⟩
    intro closed destroyed
    refine ⟨trivial, ?_⟩
    intro again connectsAgain
    exact ⟨trivial, trivial⟩
  rw [connections_isolated_iff _ _ _ order]
  intro empty
  obtain ⟨_, later⟩ := empty _ rfl
  obtain ⟨_, rest⟩ := later _ rfl
  obtain ⟨_, last⟩ := rest _ rfl
  obtain ⟨atConnect, _⟩ := last _ rfl
  exact absurd atConnect.1 (by decide)

end Connected

end TCPSocket

end LowLatencyBlocks
