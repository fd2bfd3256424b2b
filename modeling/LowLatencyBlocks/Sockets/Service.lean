import Mathlib.Algebra.Order.BigOperators.Group.List
import Mathlib.Algebra.Order.Ring.Nat
import LowLatencyBlocks.Library.Members
import LowLatencyBlocks.Sockets.Connections
import LowLatencyBlocks.Sockets.Echo

/-!
# The server and its clients

The system of `sockets/program.cpp`: a `TCPServer` that polls and services its
connections, and a client at the other end of each of them.  A connection is
named by the socket that the server makes for it; its client may send before
that.  Each conversation turns out to be one of its own, whatever happens on the
other connections.

What the callbacks log is left out, and `recv_finished_callback_` with it.
-/

namespace LowLatencyBlocks

open Library

namespace TCPServer

/-- The server, and the conversation over each connection. -/
structure Service where
  served : Served
  conversations : SocketPtr → Conversation

inductive ServiceTurn where
  /-- `clients[i]->send(data)`. -/
  | submit (socket : SocketPtr) (data : List UInt8)
  /-- `clients[i]->sendAndRecv()`. -/
  | client (socket : SocketPtr) (transfer : Transfer)
  | poll (epollWait : Nat → List Event) (accepts : List AcceptResult)
  /-- `server.sendAndRecv()`, with what the kernel does for each socket. -/
  | sendAndRecv (transfers : SocketPtr → Transfer)

/-- What `new char[TCPBufferSize]` finds, for a client and for the server's
socket of its connection. -/
abbrev Memory : Type :=
  SocketPtr → (Buffer UInt8 × Buffer UInt8) × (Buffer UInt8 × Buffer UInt8)

instance (served : Served) (socket : SocketPtr) :
    Decidable (served.Live socket) :=
  inferInstanceAs
    (Decidable (socket ∈ served.accepted ∧ socket ∉ served.deletions))

namespace Service

def start
    (epollFd socketFd : Int) (added : Bool) (memory : Memory) :
    Service where
  served := Served.listening epollFd socketFd added
  conversations := fun socket =>
    Conversation.start (memory socket).1 (memory socket).2

/-- A turn on one connection. -/
def converse (service : Service) (socket : SocketPtr) (turn : Turn) :
    Option Service :=
  ((service.conversations socket).step turn).map fun next =>
    { service with
      conversations := Function.update service.conversations socket next }

def step (service : Service) : ServiceTurn → Option Service
  | .submit socket data => service.converse socket (.submit data)
  | .client socket transfer => service.converse socket (.client transfer)
  | .poll epollWait accepts =>
      (service.served.step (.poll epollWait accepts)).map fun served =>
        { service with served := served }
  | .sendAndRecv transfers =>
      let serviced :=
        service.served.server.sendAndRecv fun socket =>
          decide (0 < (transfers socket).received.nRcv)
      (stepEach Conversation.step (fun socket => .server (transfers socket))
        serviced.calls service.conversations).map fun conversations =>
          { service with conversations := conversations }

/-- What `epoll_wait` and `new` promise. -/
def Contract (before : Service) (turn : ServiceTurn) (after : Service) : Prop :=
  match turn with
  | .poll epollWait accepts =>
      Served.Contract (.poll epollWait accepts) before.served after.served
  | _ => True

/-- The turns that a connection sees: those of its client, and one in each
`sendAndRecv()` of the server between its accept and its deletion. -/
def turnsOn (socket : SocketPtr) (service : Service) :
    ServiceTurn → List Turn
  | .submit other data => if other = socket then [.submit data] else []
  | .client other transfer =>
      if other = socket then [.client transfer] else []
  | .poll _ _ => []
  | .sendAndRecv transfers =>
      if service.served.Live socket then [.server (transfers socket)] else []

section OneTurn

variable {before after : Service} {turn : ServiceTurn}

theorem converse_cases
    {socket : SocketPtr} {own : Turn}
    (conversed : before.converse socket own = some after) :
    ∃ next,
      (before.conversations socket).step own = some next ∧
        after =
          { before with
            conversations :=
              Function.update before.conversations socket next } := by
  obtain ⟨next, stepped, same⟩ := Option.map_eq_some_iff.mp conversed
  exact ⟨next, stepped, same.symm⟩

theorem exec_of_converse
    {socket : SocketPtr} {own : Turn}
    (conversed : before.converse socket own = some after)
    (other : SocketPtr) :
    exec Conversation.step (if socket = other then [own] else [])
        (before.conversations other) =
      some (after.conversations other) := by
  obtain ⟨next, stepped, rfl⟩ := converse_cases conversed
  dsimp only
  by_cases same : socket = other
  · rw [if_pos same, exec_cons, ← same, stepped, Function.update_self]
    rfl
  · rw [if_neg same, Function.update_of_ne (Ne.symm same)]
    rfl

/-- A turn of the whole makes for each connection the turns it sees. -/
theorem exec_turnsOn
    (listed : before.served.Listed) (stepped : before.step turn = some after)
    (socket : SocketPtr) :
    exec Conversation.step (turnsOn socket before turn)
        (before.conversations socket) =
      some (after.conversations socket) := by
  cases turn with
  | submit other data =>
      exact exec_of_converse stepped socket
  | client other transfer =>
      exact exec_of_converse stepped socket
  | poll epollWait accepts =>
      obtain ⟨served, _, rfl⟩ := Option.map_eq_some_iff.mp stepped
      rfl
  | sendAndRecv transfers =>
      obtain ⟨conversations, ran, rfl⟩ := Option.map_eq_some_iff.mp stepped
      rw [sendAndRecv_calls, listed.sendEmpty, List.append_nil] at ran
      have liveIff := listed.recvLive socket
      rw [turnsOn]
      by_cases live : before.served.Live socket
      · rw [if_pos live, exec_cons,
          stepEach_of_mem listed.recvOnce (liveIff.mpr live) ran]
        rfl
      · have absent : socket ∉ before.served.server.recvSockets :=
          fun member => live (liveIff.mp member)
        rw [if_neg live, exec_nil]
        exact congrArg some (stepEach_of_notMem absent ran).symm

theorem listed_step
    (listed : before.served.Listed) (stepped : before.step turn = some after)
    (contract : Contract before turn after) :
    after.served.Listed := by
  cases turn with
  | submit other data =>
      obtain ⟨_, _, rfl⟩ := converse_cases stepped
      exact listed
  | client other transfer =>
      obtain ⟨_, _, rfl⟩ := converse_cases stepped
      exact listed
  | poll epollWait accepts =>
      obtain ⟨served, polled, rfl⟩ := Option.map_eq_some_iff.mp stepped
      obtain ⟨server, done, rfl⟩ := Served.step_poll_cases polled
      exact listed.poll done contract
  | sendAndRecv transfers =>
      obtain ⟨_, _, rfl⟩ := Option.map_eq_some_iff.mp stepped
      exact listed

theorem turnsOn_cases (socket : SocketPtr) (service : Service)
    (turn : ServiceTurn) :
    turnsOn socket service turn = [] ∨
      ∃ own, turnsOn socket service turn = [own] := by
  cases turn with
  | submit other data | client other transfer =>
      by_cases same : other = socket
      · exact Or.inr ⟨_, if_pos same⟩
      · exact Or.inl (if_neg same)
  | poll epollWait accepts =>
      exact Or.inl rfl
  | sendAndRecv transfers =>
      by_cases live : service.served.Live socket
      · exact Or.inr ⟨_, if_pos live⟩
      · exact Or.inl (if_neg live)

end OneTurn

/-! ## Every conversation on its own -/

section Runs

variable {epollFd socketFd : Int} {added : Bool} {memory : Memory}
  {service : Service}

/-- In every run of the server and its clients, each connection makes a run of
its own: the turns of its client, and one turn in each `sendAndRecv()` of the
server while it is live.  It is intact when the `::send` calls of these turns
deliver what was held, whatever happens on the others. -/
theorem service_conversations
    (epollFd socketFd : Int) (added : Bool) (memory : Memory)
    (turns : List ServiceTurn) (service : Service)
    (ran : exec step turns (start epollFd socketFd added memory) = some service)
    (contract :
      EachStep step Contract turns (start epollFd socketFd added memory))
    (socket : SocketPtr) :
    exec Conversation.step
        (callsOf step (turnsOn socket) turns
          (start epollFd socketFd added memory))
        (Conversation.start (memory socket).1 (memory socket).2) =
      some (service.conversations socket) ∧
    (EachStep Conversation.step Conversation.InOrder
        (callsOf step (turnsOn socket) turns
          (start epollFd socketFd added memory))
        (Conversation.start (memory socket).1 (memory socket).2) →
      (service.conversations socket).Intact) := by
  have ranOwn :
      exec Conversation.step
          (callsOf step (turnsOn socket) turns
            (start epollFd socketFd added memory))
          (Conversation.start (memory socket).1 (memory socket).2) =
        some (service.conversations socket) := by
    apply
      exec_callsOf (fun service : Service => service.conversations socket)
        (fun service => service.served.Listed) _ _ contract
        (Served.Listed.listening epollFd socketFd added) ran
    · intro before turn after listed stepped
      exact exec_turnsOn listed stepped socket
    · intro before turn after listed stepped promise
      exact listed_step listed stepped promise
  exact ⟨ranOwn, fun order => Conversation.intact_of_inOrder order ranOwn⟩

/-! ## How the conversations end -/

def machine
    (epollFd socketFd : Int) (added : Bool) (memory : Memory) :
    Machine Service ServiceTurn where
  start := start epollFd socketFd added memory
  step := fun turn before after => before.step turn = some after

/-- The runs in which the kernel keeps its promises and every `::send` delivers
what is held. -/
def InOrder (turn : ServiceTurn) (before after : Service) : Prop :=
  Contract before turn after ∧
    ∀ socket, ∀ own ∈ turnsOn socket before turn,
      Conversation.InOrder (before.conversations socket) own
        (after.conversations socket)

/-- What holds after every turn of such a run. -/
structure Healthy (service : Service) : Prop where
  listed : service.served.Listed
  idle : ∀ socket, (service.conversations socket).Idle
  intact : ∀ socket, (service.conversations socket).Intact

theorem healthy_start : (start epollFd socketFd added memory).Healthy where
  listed := Served.Listed.listening epollFd socketFd added
  idle := fun socket =>
    Conversation.idle_start (memory socket).1 (memory socket).2
  intact := fun socket =>
    Conversation.intact_start (memory socket).1 (memory socket).2

theorem Healthy.next
    {before after : Service} {turn : ServiceTurn}
    (healthy : before.Healthy) (stepped : before.step turn = some after)
    (order : InOrder turn before after) : after.Healthy := by
  obtain ⟨contract, ownOrder⟩ := order
  have both :
      ∀ socket,
        (after.conversations socket).Idle ∧
          (after.conversations socket).Intact := by
    intro socket
    have idle := healthy.idle socket
    have intact := healthy.intact socket
    have moved := exec_turnsOn healthy.listed stepped socket
    have inOrder := ownOrder socket
    rcases turnsOn_cases socket before turn with none | ⟨own, one⟩
    · rw [none, exec_nil] at moved
      rw [← Option.some.inj moved]
      exact ⟨idle, intact⟩
    · rw [one, exec_cons] at moved
      obtain ⟨next, steppedOwn, same⟩ := Option.bind_eq_some_iff.mp moved
      rw [Option.some.inj same] at steppedOwn
      rw [one] at inOrder
      have ordered := inOrder own (List.mem_singleton_self own)
      exact
        ⟨idle.next steppedOwn,
          (idle.intact_iff intact steppedOwn).mpr ordered⟩
  exact
    { listed := listed_step healthy.listed stepped contract
      idle := fun socket => (both socket).1
      intact := fun socket => (both socket).2 }

theorem healthy_of_reachable
    (reached :
      (machine epollFd socketFd added memory).Reachable InOrder service) :
    service.Healthy :=
  reached.invariant Healthy healthy_start fun healthy stepped order =>
    healthy.next stepped order

/-- All that was sent on the live connections has been found. -/
def Settled (service : Service) : Prop :=
  ∀ socket, service.served.Live socket →
    (service.conversations socket).Settled

/-- What is still to be moved on the connections that the server services. -/
def pending (service : Service) : Nat :=
  (service.served.server.recvSockets.map fun socket =>
    (service.conversations socket).pending).sum

/-- A turn in order that takes the live conversations further, and changes
nothing else. -/
structure Forward
    (before : Service) (turn : ServiceTurn) (after : Service) : Prop where
  stepped : before.step turn = some after
  order : InOrder turn before after
  served : after.served = before.served
  submitted : ∀ socket,
    (after.conversations socket).submitted =
      (before.conversations socket).submitted
  lower : after.pending < before.pending

theorem pending_lt
    {before : Service} {conversations : SocketPtr → Conversation}
    {socket : SocketPtr}
    (listed : socket ∈ before.served.server.recvSockets)
    (notHigher :
      ∀ socket,
        (conversations socket).pending ≤
          (before.conversations socket).pending)
    (lower :
      (conversations socket).pending <
        (before.conversations socket).pending) :
    Service.pending { before with conversations := conversations } <
      before.pending :=
  List.sum_lt_sum _ _ (fun socket _ => notHigher socket)
    ⟨socket, listed, lower⟩

/-- The client of a connection sends what it holds and reads. -/
theorem Healthy.client_forward
    (healthy : service.Healthy) {socket : SocketPtr}
    (listed : socket ∈ service.served.server.recvSockets)
    (anything :
      (service.conversations socket).client.socket.held ≠ [] ∨
        (service.conversations socket).client.incoming ≠ []) :
    ∃ turn after, service.Forward turn after := by
  obtain ⟨transfer, next, stepped, order, submitted, lower⟩ :=
    (healthy.idle socket).exists_client_turn
  have same {other : SocketPtr} (apart : other ≠ socket) :
      Function.update service.conversations socket next other =
        service.conversations other :=
    Function.update_of_ne apart next service.conversations
  have moved :
      Function.update service.conversations socket next socket = next :=
    Function.update_self socket next service.conversations
  refine
    ⟨.client socket transfer,
      { service with
        conversations :=
          Function.update service.conversations socket next }, ?_, ?_, rfl,
      ?_, ?_⟩
  · rw [step, converse, stepped]
    rfl
  · refine ⟨trivial, ?_⟩
    intro other own member
    rw [turnsOn] at member
    by_cases isSocket : socket = other
    · rw [if_pos isSocket] at member
      rw [List.mem_singleton.mp member, ← isSocket]
      exact order
    · rw [if_neg isSocket] at member
      cases member
  · intro other
    dsimp only
    by_cases isSocket : other = socket
    · rw [isSocket, moved, submitted]
    · rw [same isSocket]
  · apply pending_lt listed
    · intro other
      by_cases isSocket : other = socket
      · rw [isSocket, moved]
        exact Nat.le_of_lt (lower anything)
      · rw [same isSocket]
    · rw [moved]
      exact lower anything

/-- The server services all its connections. -/
theorem Healthy.server_forward
    (healthy : service.Healthy) {socket : SocketPtr}
    (listed : socket ∈ service.served.server.recvSockets)
    (anything : (service.conversations socket).server.incoming ≠ []) :
    ∃ turn after, service.Forward turn after := by
  choose transfers next stepped order submitted notHigher lower using
    fun socket => (healthy.idle socket).exists_server_turn
  obtain ⟨conversations, ran⟩ :=
    stepEach_returns healthy.listed.recvOnce fun socket _ =>
      ⟨next socket, stepped socket⟩
  have moved {socket : SocketPtr}
      (member : socket ∈ service.served.server.recvSockets) :
      conversations socket = next socket := by
    have steppedToo := stepEach_of_mem healthy.listed.recvOnce member ran
    rw [stepped socket] at steppedToo
    exact (Option.some.inj steppedToo).symm
  have same {socket : SocketPtr}
      (absent : socket ∉ service.served.server.recvSockets) :
      conversations socket = service.conversations socket :=
    stepEach_of_notMem absent ran
  refine
    ⟨.sendAndRecv transfers, { service with conversations := conversations },
      ?_, ?_, rfl, ?_, ?_⟩
  · simp only [step]
    rw [sendAndRecv_calls, healthy.listed.sendEmpty, List.append_nil, ran]
    rfl
  · refine ⟨trivial, ?_⟩
    intro other own member
    rw [turnsOn] at member
    by_cases live : service.served.Live other
    · rw [if_pos live] at member
      rw [List.mem_singleton.mp member]
      exact order other
    · rw [if_neg live] at member
      cases member
  · intro other
    dsimp only
    by_cases member : other ∈ service.served.server.recvSockets
    · rw [moved member, submitted]
    · rw [same member]
  · apply pending_lt listed
    · intro other
      by_cases member : other ∈ service.served.server.recvSockets
      · rw [moved member]
        exact notHigher other
      · rw [same member]
    · rw [moved listed]
      exact lower socket anything

theorem Healthy.forward
    (healthy : service.Healthy) (unsettled : ¬ service.Settled) :
    ∃ turn after, service.Forward turn after := by
  rw [Settled, not_forall] at unsettled
  obtain ⟨socket, left⟩ := unsettled
  obtain ⟨live, left⟩ := Classical.not_imp.mp left
  have listed := (healthy.listed.recvLive socket).mpr live
  by_cases toServer : (service.conversations socket).server.incoming = []
  · apply healthy.client_forward listed
    by_contra nothing
    rw [not_or, not_not, not_not] at nothing
    exact left ⟨nothing.1, toServer, nothing.2⟩
  · exact healthy.server_forward listed toServer

/-- From every state that a run in order reaches, the server and its clients can
be brought to the end of all live conversations: the server has found everything
that was submitted on each of them, and each client the replies to it. -/
theorem service_completes
    (epollFd socketFd : Int) (added : Bool) (memory : Memory)
    (service : Service)
    (reached :
      (machine epollFd socketFd added memory).Reachable InOrder service) :
    ∃ final,
      (machine epollFd socketFd added memory).Leads InOrder service final ∧
        ∀ socket, service.served.Live socket →
          final.served.Live socket ∧
            (final.conversations socket).server.found.flatten =
              (service.conversations socket).submitted ∧
            (final.conversations socket).client.found.flatten =
              ((final.conversations socket).server.found.map
                reply).flatten := by
  have settles :
      ∃ final,
        (machine epollFd socketFd added memory).Leads InOrder service final ∧
          (final.Healthy ∧
            final.served = service.served ∧
            ∀ socket,
              (final.conversations socket).submitted =
                (service.conversations socket).submitted) ∧
          final.Settled := by
    apply
      Machine.leads_of_measure
        (fun state : Service =>
          state.Healthy ∧
            state.served = service.served ∧
            ∀ socket,
              (state.conversations socket).submitted =
                (service.conversations socket).submitted)
        Settled pending _
        ⟨healthy_of_reachable reached, rfl, fun _ => rfl⟩
    rintro state ⟨healthy, served, submitted⟩ unsettled
    obtain ⟨turn, next, forward⟩ := healthy.forward unsettled
    refine
      ⟨turn, next, forward.stepped, forward.order, ⟨?_, ?_, ?_⟩,
        forward.lower⟩
    · exact healthy.next forward.stepped forward.order
    · exact forward.served.trans served
    · intro socket
      exact (forward.submitted socket).trans (submitted socket)
  obtain ⟨final, run, ⟨healthy, served, submitted⟩, settled⟩ := settles
  refine ⟨final, run, ?_⟩
  intro socket live
  rw [← served] at live
  obtain ⟨heard, answered⟩ :=
    (settled socket live).complete (healthy.intact socket)
  exact ⟨live, heard.trans (submitted socket), answered⟩

end Runs

/-! ## A run with one connection -/

def zeroMemory : Memory :=
  fun _ => (Conversation.zeroBuffers, Conversation.zeroBuffers)

/-- A poll that accepts one connection. -/
def acceptOne : ServiceTurn :=
  .poll (fun _ => [⟨.listener, epollin⟩])
    [.accepted ⟨5, true, true, 100, true⟩, .failed 11]

/-- The connection is accepted, its client submits two bytes, and the kernel
takes them. -/
def sampleTurns : List ServiceTurn :=
  [acceptOne, .submit (.allocated 100) [104, 105],
    .client (.allocated 100)
      ⟨TCPSocket.emptyCtrl, .failed 11, [.accepted 2]⟩]

theorem service_conversations_sample :
    ∃ service,
      exec step sampleTurns (start 3 4 true zeroMemory) = some service ∧
        exec Conversation.step
            [.submit [104, 105],
              .client ⟨TCPSocket.emptyCtrl, .failed 11, [.accepted 2]⟩]
            (Conversation.start Conversation.zeroBuffers
              Conversation.zeroBuffers) =
          some (service.conversations (.allocated 100)) := by
  have ranAll :
      ∃ service,
        exec step sampleTurns (start 3 4 true zeroMemory) = some service :=
    ⟨_, rfl⟩
  have contract :
      EachStep step Contract sampleTurns (start 3 4 true zeroMemory) := by
    intro accepted polled
    refine ⟨⟨by decide, by decide, by decide⟩, ?_⟩
    intro submitted sent
    refine ⟨trivial, ?_⟩
    intro taken moved
    exact ⟨trivial, trivial⟩
  obtain ⟨service, ran⟩ := ranAll
  exact
    ⟨service, ran,
      (service_conversations 3 4 true zeroMemory sampleTurns service ran
        contract (.allocated 100)).1⟩

theorem service_completes_sample :
    ∃ service final,
      (machine 3 4 true zeroMemory).Reachable InOrder service ∧
        (machine 3 4 true zeroMemory).Leads InOrder service final ∧
        (final.conversations (.allocated 100)).server.found.flatten =
          [104, 105] := by
  have accepts :
      ∃ accepted,
        (start 3 4 true zeroMemory).step acceptOne = some accepted ∧
          accepted.served.Live (.allocated 100) ∧
          accepted.conversations =
            (start 3 4 true zeroMemory).conversations :=
    ⟨_, rfl, by decide, rfl⟩
  obtain ⟨accepted, polled, live, untouched⟩ := accepts
  have reachedAccepted :
      (machine 3 4 true zeroMemory).Reachable InOrder accepted := by
    apply Machine.Reachable.start.next polled
    refine ⟨⟨by decide, by decide, by decide⟩, ?_⟩
    intro socket own member
    cases member
  have submits :
      ∃ conversation,
        (accepted.conversations (.allocated 100)).step
            (.submit [104, 105]) = some conversation ∧
          conversation.submitted = [104, 105] := by
    rw [untouched]
    exact ⟨_, rfl, rfl⟩
  obtain ⟨conversation, sent, submitted⟩ := submits
  have stepped :
      (machine 3 4 true zeroMemory).step
        (.submit (.allocated 100) [104, 105]) accepted
        { accepted with
          conversations :=
            Function.update accepted.conversations (.allocated 100)
              conversation } := by
    change Option.map _ _ = _
    rw [sent]
    rfl
  have admitted :
      InOrder (.submit (.allocated 100) [104, 105]) accepted
        { accepted with
          conversations :=
            Function.update accepted.conversations (.allocated 100)
              conversation } := by
    refine ⟨trivial, ?_⟩
    intro socket own member
    rw [turnsOn] at member
    by_cases here : SocketPtr.allocated 100 = socket
    · rw [if_pos here] at member
      rw [List.mem_singleton.mp member]
      exact trivial
    · rw [if_neg here] at member
      cases member
  have reached := reachedAccepted.next stepped admitted
  obtain ⟨final, run, complete⟩ :=
    service_completes 3 4 true zeroMemory _ reached
  refine ⟨_, final, reached, run, ?_⟩
  have moved :
      Function.update accepted.conversations (.allocated 100) conversation
          (.allocated 100) =
        conversation :=
    Function.update_self _ _ _
  rw [(complete (.allocated 100) live).2.1]
  dsimp only
  rw [moved, submitted]

end Service

end TCPServer

end LowLatencyBlocks
