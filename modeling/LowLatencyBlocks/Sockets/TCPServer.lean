import Mathlib.Data.Finset.Card
import LowLatencyBlocks.Library.ListedSet
import LowLatencyBlocks.Macros

/-!
# The TCP server

`TCPServer` of `tcp_server.cpp`.  A `TCPSocket *` is the listener, which is a
member of the server, or the address that `new` returned.  Nothing ever frees a
socket, so an address stands for one connection.

What the kernel answers is a parameter of each call: the events of
`epoll_wait`, the results of `accept` and of the calls on an accepted
descriptor, and the value that `sendAndRecv()` of a socket returns.  The two
kernel tables that the server changes are part of its state: the sockets
registered in the epoll instance and the open descriptors.  The buffers of the
sockets are those of `TCPSocket` and are not touched here.
-/

namespace LowLatencyBlocks

open Library

/-- A `TCPSocket *`. -/
inductive SocketPtr where
  | listener
  | allocated (address : Nat)
  deriving DecidableEq, Repr

/-- `epoll_event`, with the pointer in its data. -/
structure Event where
  socket : SocketPtr
  events : BitVec 32
  deriving DecidableEq, Repr

def epollin : BitVec 32 :=
  0x001

def epollout : BitVec 32 :=
  0x004

def epollerr : BitVec 32 :=
  0x008

def epollhup : BitVec 32 :=
  0x010

namespace Event

/-- `event.events & flags`. -/
def has (event : Event) (flags : BitVec 32) : Bool :=
  event.events &&& flags != 0

/-- The listener has connections to accept. -/
def newConnections (event : Event) : Bool :=
  event.has epollin && event.socket == .listener

end Event

/-- A descriptor that `accept` returned, what the calls on it return, and the
address of the socket made for it. -/
structure Connection where
  fd : Nat
  nonBlocking : Bool
  noDelay : Bool
  address : Nat
  added : Bool
  deriving DecidableEq, Repr

inductive AcceptResult where
  | accepted (connection : Connection)
  | failed (errno : Int)
  deriving DecidableEq, Repr

/-- The pointer to the socket made for the connection. -/
def Connection.socket (connection : Connection) : SocketPtr :=
  .allocated connection.address

structure TCPServer where
  efd : Int
  /-- `fd_` of each socket. -/
  fd : SocketPtr → Int
  sockets : List SocketPtr
  recvSockets : List SocketPtr
  sendSockets : List SocketPtr
  disconnectedSockets : List SocketPtr
  /-- The sockets registered in the epoll instance. -/
  registered : Finset SocketPtr
  /-- The open descriptors. -/
  openFds : Finset Int

namespace TCPServer

/-- `TCPServer(logger)`. -/
def make : TCPServer where
  efd := -1
  fd := fun _ => -1
  sockets := []
  recvSockets := []
  sendSockets := []
  disconnectedSockets := []
  registered := ∅
  openFds := ∅

/-- A call that returned a descriptor, or `-1`. -/
def opened (server : TCPServer) (fd : Int) : TCPServer :=
  { server with
    openFds :=
      if fd = -1 then server.openFds else insert fd server.openFds }

/-- `close(fd)`. -/
def close (server : TCPServer) (fd : Int) : TCPServer :=
  { server with openFds := server.openFds.erase fd }

/-- `socket->fd_ = fd`. -/
def setFd (server : TCPServer) (socket : SocketPtr) (fd : Int) :
    TCPServer :=
  { server with
    fd := fun other => if other = socket then fd else server.fd other }

/-- `listener_socket_.destory()`. -/
def destoryListener (server : TCPServer) : TCPServer :=
  (server.close (server.fd .listener)).setFd .listener (-1)

/-- `destroy()`; nothing stays registered in a closed epoll instance. -/
def destroy (server : TCPServer) : TCPServer :=
  { server.close server.efd with efd := -1, registered := ∅ }.destoryListener

/-- `addToEpollList(socket)`, where `added` tells whether `EPOLL_CTL_ADD`
succeeds. -/
def addToEpollList (server : TCPServer) (socket : SocketPtr) (added : Bool) :
    Bool × TCPServer :=
  if added then
    (true, { server with registered := insert socket server.registered })
  else
    (false, server)

/-- `removeFromEpollList(socket)`, which returns `true` when `EPOLL_CTL_DEL`
fails. -/
def removeFromEpollList (server : TCPServer) (socket : SocketPtr) :
    Bool × TCPServer :=
  (decide (socket ∉ server.registered),
    { server with registered := server.registered.erase socket })

/-- `listen(iface, port)`, where `epollFd` is the result of `epoll_create` and
`socketFd` that of `createSocket`; neither is checked. -/
def listen (server : TCPServer) (epollFd socketFd : Int) (added : Bool) :
    TCPServer :=
  let server := server.destroy.opened epollFd
  let server := { server with efd := epollFd }
  let server := server.destoryListener.opened socketFd
  let server := server.setFd .listener socketFd
  (server.addToEpollList .listener added).2

/-- The lists are not emptied by `listen`. -/
theorem listen_lists
    (server : TCPServer) (epollFd socketFd : Int) (added : Bool) :
    (server.listen epollFd socketFd added).sockets = server.sockets ∧
      (server.listen epollFd socketFd added).recvSockets =
        server.recvSockets ∧
      (server.listen epollFd socketFd added).sendSockets =
        server.sendSockets ∧
      (server.listen epollFd socketFd added).disconnectedSockets =
        server.disconnectedSockets := by
  cases added
  · exact ⟨rfl, rfl, rfl, rfl⟩
  · exact ⟨rfl, rfl, rfl, rfl⟩

theorem registered_listen
    {server : TCPServer} {epollFd socketFd : Int} {added : Bool}
    {socket : SocketPtr}
    (member : socket ∈ (server.listen epollFd socketFd added).registered) :
    socket = .listener := by
  cases added with
  | false =>
      exact absurd member (Finset.notMem_empty socket)
  | true =>
      exact Finset.mem_singleton.mp member

/-- `deleteSocket(socket)`. -/
def deleteSocket (server : TCPServer) (socket : SocketPtr) : TCPServer :=
  let server := (server.removeFromEpollList socket).2
  { server with
    sockets := eraseRemove server.sockets socket
    recvSockets := eraseRemove server.recvSockets socket
    sendSockets := eraseRemove server.sendSockets socket }

/-! ## `poll()` -/

/-- `max_events`. -/
def maxEvents (server : TCPServer) : Nat :=
  1 + server.sockets.length

/-- The first loop: `deleteSocket` for every disconnected socket. -/
def deleteDisconnected (server : TCPServer) : TCPServer :=
  server.disconnectedSockets.foldl deleteSocket server

/-- One turn of the event loop, with `have_new_connections`. -/
def handleEvent :
    TCPServer × Bool → Event → TCPServer × Bool
  | (server, haveNewConnections), event =>
      if event.newConnections then
        (server, true)
      else
        let server :=
          if event.has epollin then
            { server with
              recvSockets := findOrPush server.recvSockets event.socket }
          else
            server
        let server :=
          if event.has epollout then
            { server with
              sendSockets := findOrPush server.sendSockets event.socket }
          else
            server
        let server :=
          if event.has (epollerr ||| epollhup) then
            { server with
              disconnectedSockets :=
                findOrPush server.disconnectedSockets event.socket }
          else
            server
        (server, haveNewConnections)

/-- The accept loop, with the results of `accept` from here on; `none` when the
loop does not leave within them. -/
def acceptLoop (server : TCPServer) :
    List AcceptResult → Except Fault (Option TCPServer)
  | [] => .ok none
  | .failed _ :: _ => .ok (some server)
  | .accepted connection :: results => do
      let server := server.opened connection.fd
      assert (connection.nonBlocking && connection.noDelay)
        ("Failed to set NonBlocking or NoDelay on socket:" ++
          toString connection.fd)
      let server := server.setFd connection.socket connection.fd
      let (added, server) :=
        server.addToEpollList connection.socket connection.added
      assert added "Unable to add socket to epoll\n"
      acceptLoop
        { server with
          recvSockets := findOrPush server.recvSockets connection.socket }
        results

/-- `poll()`, where `epollWait` is what `epoll_wait` returns for `max_events`
and `accepts` are the results of `accept`. -/
def poll
    (server : TCPServer) (epollWait : Nat → List Event)
    (accepts : List AcceptResult) : Except Fault (Option TCPServer) :=
  let maxEvents := server.maxEvents
  let (server, haveNewConnections) :=
    (epollWait maxEvents).foldl handleEvent
      (server.deleteDisconnected, false)
  if haveNewConnections then
    server.acceptLoop accepts
  else
    .ok (some server)

/-! ## `sendAndRecv()` -/

/-- The calls that `sendAndRecv()` makes. -/
structure Serviced where
  /-- The sockets whose `sendAndRecv()` is called, in order. -/
  calls : List SocketPtr
  /-- `recv_finished_callback_` is called. -/
  finished : Bool
  deriving DecidableEq, Repr

/-- `sendAndRecv()`, where `received` is what `sendAndRecv()` of a socket
returns. -/
def sendAndRecv (server : TCPServer) (received : SocketPtr → Bool) :
    Serviced :=
  let recvLoop :=
    server.recvSockets.foldl
      (fun serviced socket =>
        { calls := serviced.calls ++ [socket]
          finished := if received socket then true else serviced.finished })
      (⟨[], false⟩ : Serviced)
  server.sendSockets.foldl
    (fun serviced socket =>
      { serviced with calls := serviced.calls ++ [socket] })
    recvLoop

/-! ## What the loops do -/

/-- The sockets that a batch reports readable, the listener apart. -/
def readable (events : List Event) : List SocketPtr :=
  (events.filter fun event =>
    !event.newConnections && event.has epollin).map Event.socket

def writable (events : List Event) : List SocketPtr :=
  (events.filter fun event =>
    !event.newConnections && event.has epollout).map Event.socket

/-- The sockets that a batch reports with an error or a hang-up, and whose
event is not skipped as one of new connections. -/
def hungUp (events : List Event) : List SocketPtr :=
  (events.filter fun event =>
    !event.newConnections && event.has (epollerr ||| epollhup)).map
      Event.socket

/-- The sockets made for the connections accepted up to the first failure. -/
def acceptedIn : List AcceptResult → List SocketPtr
  | [] => []
  | .failed _ :: _ => []
  | .accepted connection :: results =>
      connection.socket :: acceptedIn results

/-- The sockets that a poll makes. -/
def accepting
    (events : List Event) (accepts : List AcceptResult) :
    List SocketPtr :=
  if events.any Event.newConnections then acceptedIn accepts else []

theorem foldl_deleteSocket (server : TCPServer) (gone : List SocketPtr) :
    gone.foldl deleteSocket server =
      { server with
        sockets := eraseRemoveAll server.sockets gone
        recvSockets := eraseRemoveAll server.recvSockets gone
        sendSockets := eraseRemoveAll server.sendSockets gone
        registered := server.registered \ gone.toFinset } := by
  induction gone generalizing server with
  | nil =>
      simp
  | cons first rest inductionHypothesis =>
      have registered :
          server.registered.erase first \ rest.toFinset =
            server.registered \ (first :: rest).toFinset := by
        rw [List.toFinset_cons, Finset.erase_sdiff_comm,
          Finset.sdiff_insert]
      rw [List.foldl_cons, inductionHypothesis]
      simp only [deleteSocket, removeFromEpollList, registered,
        eraseRemoveAll_cons]

theorem deleteDisconnected_eq (server : TCPServer) :
    server.deleteDisconnected =
      { server with
        sockets :=
          eraseRemoveAll server.sockets server.disconnectedSockets
        recvSockets :=
          eraseRemoveAll server.recvSockets server.disconnectedSockets
        sendSockets :=
          eraseRemoveAll server.sendSockets server.disconnectedSockets
        registered :=
          server.registered \ server.disconnectedSockets.toFinset } :=
  foldl_deleteSocket server server.disconnectedSockets

theorem foldl_handleEvent
    (events : List Event) (server : TCPServer)
    (haveNewConnections : Bool) :
    events.foldl handleEvent (server, haveNewConnections) =
      ({ server with
          recvSockets :=
            findOrPushAll server.recvSockets (readable events)
          sendSockets :=
            findOrPushAll server.sendSockets (writable events)
          disconnectedSockets :=
            findOrPushAll server.disconnectedSockets (hungUp events) },
        haveNewConnections || events.any Event.newConnections) := by
  induction events generalizing server haveNewConnections with
  | nil =>
      simp [readable, writable, hungUp]
  | cons event events inductionHypothesis =>
      rw [List.foldl_cons]
      by_cases announced : event.newConnections
      · have skipped :
            handleEvent (server, haveNewConnections) event =
              (server, true) := by
          rw [handleEvent, if_pos announced]
        rw [skipped, inductionHypothesis]
        simp [readable, writable, hungUp, announced]
      · rw [handleEvent, if_neg announced, inductionHypothesis]
        -- one case for each of the three flags
        by_cases reads : event.has epollin <;>
          by_cases writes : event.has epollout <;>
          by_cases fails : event.has (epollerr ||| epollhup) <;>
          simp [readable, writable, hungUp, announced, reads, writes,
            fails]

/-- What the accept loop does to a server, with the sockets it makes. -/
structure Accepts
    (before : TCPServer) (made : List SocketPtr) (after : TCPServer) :
    Prop where
  sockets : after.sockets = before.sockets
  recvSockets :
    after.recvSockets = findOrPushAll before.recvSockets made
  sendSockets : after.sendSockets = before.sendSockets
  disconnectedSockets :
    after.disconnectedSockets = before.disconnectedSockets
  registered : after.registered = before.registered ∪ made.toFinset
  opens : before.openFds ⊆ after.openFds
  otherFd : ∀ socket, socket ∉ made → after.fd socket = before.fd socket
  madeFd : ∀ socket, socket ∈ made → after.fd socket ∈ after.openFds

/-- The server in the accept loop behind one accepted connection. -/
def afterAccept (server : TCPServer) (connection : Connection) : TCPServer :=
  let server := server.opened connection.fd
  let server := server.setFd connection.socket connection.fd
  let server :=
    (server.addToEpollList connection.socket connection.added).2
  { server with
    recvSockets := findOrPush server.recvSockets connection.socket }

/-- A turn of the accept loop that both `ASSERT`s let pass. -/
theorem acceptLoop_accepted_cases
    {server : TCPServer} {connection : Connection}
    {results : List AcceptResult} {after : TCPServer}
    (returned :
      server.acceptLoop (.accepted connection :: results) =
        .ok (some after)) :
    connection.nonBlocking = true ∧ connection.noDelay = true ∧
      connection.added = true ∧
      (server.afterAccept connection).acceptLoop results =
        .ok (some after) := by
  rw [acceptLoop] at returned
  cases nonBlocking : connection.nonBlocking
  · simp only [nonBlocking, assert] at returned
    cases returned
  · cases noDelay : connection.noDelay
    · simp only [nonBlocking, noDelay, assert] at returned
      cases returned
    · cases added : connection.added
      · simp only [nonBlocking, noDelay, added, assert, addToEpollList]
          at returned
        cases returned
      · simp only [nonBlocking, noDelay, added, assert, addToEpollList]
          at returned
        refine ⟨rfl, rfl, rfl, ?_⟩
        rw [afterAccept, added]
        exact returned

theorem openFds_subset_opened (server : TCPServer) (fd : Int) :
    server.openFds ⊆ (server.opened fd).openFds := by
  simp only [opened]
  by_cases failed : fd = -1
  · rw [if_pos failed]
  · rw [if_neg failed]
    exact Finset.subset_insert _ _

theorem mem_opened (server : TCPServer) (fd : Nat) :
    (fd : Int) ∈ (server.opened fd).openFds := by
  have returned : (fd : Int) ≠ -1 := by omega
  simp only [opened, if_neg returned]
  exact Finset.mem_insert_self _ _

theorem Accepts.refl (server : TCPServer) : Accepts server [] server where
  sockets := rfl
  recvSockets := rfl
  sendSockets := rfl
  disconnectedSockets := rfl
  registered := (Finset.union_empty _).symm
  opens := Finset.Subset.refl _
  otherFd := fun _ _ => rfl
  madeFd := by
    intro socket member
    cases member

theorem Accepts.one
    (server : TCPServer) {connection : Connection}
    (added : connection.added = true) :
    Accepts server [connection.socket] (server.afterAccept connection) := by
  have fd : ∀ socket,
      (server.afterAccept connection).fd socket =
        if socket = connection.socket then (connection.fd : Int)
        else server.fd socket := by
    intro socket
    rw [afterAccept, added]
    rfl
  have openFds :
      (server.afterAccept connection).openFds =
        (server.opened connection.fd).openFds := by
    rw [afterAccept, added]
    rfl
  refine ⟨?_, ?_, ?_, ?_, ?_, ?_, ?_, ?_⟩
  · rw [afterAccept, added]
    rfl
  · rw [afterAccept, added]
    rfl
  · rw [afterAccept, added]
    rfl
  · rw [afterAccept, added]
    rfl
  · rw [afterAccept, added, List.toFinset_cons, List.toFinset_nil,
      Finset.union_comm, Finset.insert_union, Finset.empty_union]
    rfl
  · rw [openFds]
    exact openFds_subset_opened server connection.fd
  · intro socket absent
    have other : socket ≠ connection.socket :=
      fun same => absent (List.mem_singleton.mpr same)
    rw [fd, if_neg other]
  · intro socket member
    rw [fd, if_pos (List.mem_singleton.mp member), openFds]
    exact mem_opened server connection.fd

theorem Accepts.trans
    {before middle after : TCPServer} {first second : List SocketPtr}
    (earlier : Accepts before first middle)
    (later : Accepts middle second after) :
    Accepts before (first ++ second) after where
  sockets := later.sockets.trans earlier.sockets
  recvSockets := by
    rw [later.recvSockets, earlier.recvSockets, findOrPushAll_append]
  sendSockets := later.sendSockets.trans earlier.sendSockets
  disconnectedSockets :=
    later.disconnectedSockets.trans earlier.disconnectedSockets
  registered := by
    rw [later.registered, earlier.registered, List.toFinset_append,
      Finset.union_assoc]
  opens := earlier.opens.trans later.opens
  otherFd := by
    intro socket absent
    rw [List.mem_append, not_or] at absent
    obtain ⟨notFirst, notSecond⟩ := absent
    rw [later.otherFd socket notSecond, earlier.otherFd socket notFirst]
  madeFd := by
    intro socket member
    by_cases again : socket ∈ second
    · exact later.madeFd socket again
    · have inFirst : socket ∈ first :=
        (List.mem_append.mp member).resolve_right again
      rw [later.otherFd socket again]
      exact later.opens (earlier.madeFd socket inFirst)

theorem accepts_of_acceptLoop
    {server after : TCPServer} {results : List AcceptResult}
    (returned : server.acceptLoop results = .ok (some after)) :
    Accepts server (acceptedIn results) after := by
  induction results generalizing server with
  | nil =>
      cases returned
  | cons result results inductionHypothesis =>
      cases result with
      | failed errno =>
          cases returned
          exact Accepts.refl _
      | accepted connection =>
          obtain ⟨_, _, added, rest⟩ := acceptLoop_accepted_cases returned
          exact (Accepts.one server added).trans (inductionHypothesis rest)

/-- What a poll does to a server, with the events that `epoll_wait` returns and
the sockets made for new connections. -/
structure Polled
    (before : TCPServer) (events : List Event) (made : List SocketPtr)
    (after : TCPServer) : Prop where
  sockets :
    after.sockets =
      eraseRemoveAll before.sockets before.disconnectedSockets
  recvSockets :
    after.recvSockets =
      findOrPushAll
        (findOrPushAll
          (eraseRemoveAll before.recvSockets before.disconnectedSockets)
          (readable events))
        made
  sendSockets :
    after.sendSockets =
      findOrPushAll
        (eraseRemoveAll before.sendSockets before.disconnectedSockets)
        (writable events)
  disconnectedSockets :
    after.disconnectedSockets =
      findOrPushAll before.disconnectedSockets (hungUp events)
  registered :
    after.registered =
      before.registered \ before.disconnectedSockets.toFinset ∪
        made.toFinset
  opens : before.openFds ⊆ after.openFds
  otherFd : ∀ socket, socket ∉ made → after.fd socket = before.fd socket
  madeFd : ∀ socket, socket ∈ made → after.fd socket ∈ after.openFds

/-- The last part of a poll, with the accept loop or without it. -/
private theorem accepts_of_branch
    {middle after : TCPServer} {haveNewConnections : Bool}
    {accepts : List AcceptResult}
    (returned :
      (if haveNewConnections then middle.acceptLoop accepts
        else .ok (some middle)) = .ok (some after)) :
    Accepts middle (if haveNewConnections then acceptedIn accepts else [])
      after := by
  by_cases announced : haveNewConnections
  · rw [if_pos announced] at returned ⊢
    exact accepts_of_acceptLoop returned
  · rw [if_neg announced] at returned ⊢
    cases returned
    exact Accepts.refl _

theorem polled_of_poll
    {server after : TCPServer} {epollWait : Nat → List Event}
    {accepts : List AcceptResult}
    (returned : server.poll epollWait accepts = .ok (some after)) :
    Polled server (epollWait server.maxEvents)
      (accepting (epollWait server.maxEvents) accepts) after := by
  simp only [poll, foldl_handleEvent, deleteDisconnected_eq,
    Bool.false_or] at returned
  have accepted := accepts_of_branch returned
  exact
    { sockets := accepted.sockets
      recvSockets := accepted.recvSockets
      sendSockets := accepted.sendSockets
      disconnectedSockets := accepted.disconnectedSockets
      registered := accepted.registered
      opens := accepted.opens
      otherFd := accepted.otherFd
      madeFd := accepted.madeFd }

/-! ## What `sendAndRecv()` calls -/

private theorem foldl_calls
    {turn : Serviced → SocketPtr → Serviced}
    (appends :
      ∀ serviced socket,
        (turn serviced socket).calls = serviced.calls ++ [socket])
    (sockets : List SocketPtr) (serviced : Serviced) :
    (sockets.foldl turn serviced).calls = serviced.calls ++ sockets := by
  induction sockets generalizing serviced with
  | nil =>
      rw [List.foldl_nil, List.append_nil]
  | cons socket sockets inductionHypothesis =>
      rw [List.foldl_cons, inductionHypothesis, appends, List.append_assoc,
        List.singleton_append]

theorem sendAndRecv_calls
    (server : TCPServer) (received : SocketPtr → Bool) :
    (server.sendAndRecv received).calls =
      server.recvSockets ++ server.sendSockets := by
  rw [sendAndRecv, foldl_calls fun _ _ => rfl, foldl_calls fun _ _ => rfl,
    List.nil_append]

/-! ## What the batches name -/

theorem mem_readable {events : List Event} {socket : SocketPtr} :
    socket ∈ readable events ↔
      ∃ event ∈ events,
        event.newConnections = false ∧ event.has epollin = true ∧
          event.socket = socket := by
  simp only [readable, List.mem_map, List.mem_filter, Bool.and_eq_true,
    Bool.not_eq_true', and_assoc]

theorem mem_hungUp {events : List Event} {socket : SocketPtr} :
    socket ∈ hungUp events ↔
      ∃ event ∈ events,
        event.newConnections = false ∧
          event.has (epollerr ||| epollhup) = true ∧
          event.socket = socket := by
  simp only [hungUp, List.mem_map, List.mem_filter, Bool.and_eq_true,
    Bool.not_eq_true', and_assoc]

theorem listener_notMem_readable (events : List Event) :
    .listener ∉ readable events := by
  intro member
  obtain ⟨event, _, other, reads, same⟩ := mem_readable.mp member
  simp [Event.newConnections, reads, same] at other

theorem writable_eq_nil
    {events : List Event}
    (unrequested : ∀ event ∈ events, event.has epollout = false) :
    writable events = [] := by
  simp only [writable, List.map_eq_nil_iff, List.filter_eq_nil_iff]
  intro event member
  simp [unrequested event member]

theorem listener_notMem_acceptedIn (results : List AcceptResult) :
    .listener ∉ acceptedIn results := by
  induction results with
  | nil =>
      exact List.not_mem_nil
  | cons result results inductionHypothesis =>
      cases result with
      | failed errno =>
          exact List.not_mem_nil
      | accepted connection =>
          intro member
          rcases List.mem_cons.mp member with same | later
          · cases same
          · exact inductionHypothesis later

theorem listener_notMem_accepting
    (events : List Event) (accepts : List AcceptResult) :
    .listener ∉ accepting events accepts := by
  rw [accepting]
  split
  · exact listener_notMem_acceptedIn accepts
  · exact List.not_mem_nil

end TCPServer

end LowLatencyBlocks
