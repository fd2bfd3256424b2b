import LowLatencyBlocks.Library.Machine
import LowLatencyBlocks.Library.Ownership
import LowLatencyBlocks.Sockets.OpenedDescriptors
import LowLatencyBlocks.Sockets.TCPServer

/-!
# Who owns the open descriptors

A process with a `TCPServer` and any number of client sockets, under every
sequence of `connect`, `destory`, `listen`, `destroy` and `poll`.  Each open
descriptor is the `efd_` of the server, or the `fd_` of one socket, or one that
`createSocket` opened and did not return.  So no `close` hits a descriptor of
another owner, although the numbers are used again; but the last kind is never
closed, and neither are those of accepted connections.
-/

namespace LowLatencyBlocks

open Library

/-- A place for a descriptor: `efd_`, or the `fd_` of a socket of the server or
of a client. -/
inductive Holder where
  | epoll
  | server (socket : SocketPtr)
  | client (index : Nat)
  deriving DecidableEq, Repr

/-- The process; `clientFd` is the `fd_` of each client socket.  The open
descriptors are those in `server.openFds`. -/
structure Process where
  server : TCPServer
  clientFd : Nat → Int
  /-- What `createSocket` opened and did not return. -/
  unreturned : Finset Int
  /-- The sockets made for the connections accepted. -/
  accepted : List SocketPtr

namespace SocketRequest

/-- The request that `TCPSocket::connect` makes. -/
def ofConnect (tIp ifaceIP : List Char) (isListening : Bool) :
    SocketRequest where
  tIp := tIp
  ifaceIP := ifaceIP
  isUdp := false
  isBlocking := false
  isListening := isListening
  ttl := 0
  needsSoTimestamp := true

/-- The `int` that `createSocket` returns. -/
def Created.returned (created : Created) : Int :=
  match created.fd with
  | some fd => fd
  | none => -1

/-- The descriptors that the call leaves open. -/
def Created.opened (created : Created) : Finset Int :=
  ((stillOpen created.calls).map Int.ofNat).toFinset

def Created.unreturned (created : Created) : Finset Int :=
  created.opened.erase created.returned

section Returned

variable {request : SocketRequest} {addresses : List Answers}

/-- The loop leaves the descriptor of its last address. -/
theorem mem_sockets_of_foldl
    {first : Option Nat} {fd : Nat}
    (left :
      addresses.foldl (fun _ answers => answers.socket) first = some fd) :
    first = some fd ∨
      fd ∈ addresses.flatMap fun answers => answers.socket.toList := by
  induction addresses generalizing first with
  | nil =>
      exact Or.inl left
  | cons answers rest inductionHypothesis =>
      rw [List.flatMap_cons, List.mem_append]
      rcases inductionHypothesis left with here | later
      · have socket : answers.socket = some fd := here
        rw [socket]
        exact Or.inr (Or.inl (List.mem_singleton_self fd))
      · exact Or.inr (Or.inr later)

/-- What is returned has been opened. -/
theorem mem_stillOpen_of_created
    {result : Option (List Answers)} {fd : Nat}
    (created : (request.createSocket result).fd = some fd) :
    fd ∈ stillOpen (request.createSocket result).calls := by
  cases result with
  | none =>
      cases created
  | some addresses =>
      by_cases passes :
          ∀ answers ∈ addresses, (request.tryAddress answers).passes = true
      · rw [stillOpen_of_passes passes]
        rw [createSocket_of_passes passes] at created
        have left := mem_sockets_of_foldl created
        exact left.resolve_left (by simp)
      · have fails :
            ∃ answers ∈ addresses,
              (request.tryAddress answers).passes = false := by
          rw [not_forall₂] at passes
          obtain ⟨answers, member, fails⟩ := passes
          exact ⟨answers, member, Bool.eq_false_of_not_eq_true fails⟩
        rw [createSocket_of_fails fails] at created
        cases created

theorem neg_one_notMem_opened (created : Created) : -1 ∉ created.opened := by
  intro member
  rw [Created.opened, List.mem_toFinset, List.mem_map] at member
  obtain ⟨fd, _, negative⟩ := member
  cases negative

/-- The descriptor returned, if any, is one of those opened. -/
theorem returned_mem
    (request : SocketRequest) (result : Option (List Answers)) :
    (request.createSocket result).returned = -1 ∨
      (request.createSocket result).returned ∈
        (request.createSocket result).opened := by
  rw [Created.returned, Created.opened]
  cases created : (request.createSocket result).fd with
  | none =>
      exact Or.inl rfl
  | some fd =>
      rw [List.mem_toFinset]
      exact Or.inr (List.mem_map_of_mem (mem_stillOpen_of_created created))

end Returned

end SocketRequest

namespace Process

open SocketRequest TCPServer

/-- At the start of `main`, with every socket made and none connected. -/
def start : Process where
  server := TCPServer.make
  clientFd := fun _ => -1
  unreturned := ∅
  accepted := []

/-- The descriptor in each place. -/
def held (server : TCPServer) (clientFd : Nat → Int) : Holder → Int
  | .epoll => server.efd
  | .server socket => server.fd socket
  | .client index => clientFd index

inductive Call where
  /-- `clients[index]->connect(...)`, with what `getaddrinfo` returns. -/
  | connect
      (index : Nat) (tIp ifaceIP : List Char) (isListening : Bool)
      (result : Option (List Answers))
  /-- `destory()` of a client, or its destructor. -/
  | destory (index : Nat)
  | listen
      (epollFd : Int) (ifaceIP : List Char)
      (result : Option (List Answers)) (added : Bool)
  | destroy
  | poll (epollWait : Nat → List Event) (accepts : List AcceptResult)

/-- `destory()` of a client. -/
def destory (process : Process) (index : Nat) : Process :=
  { process with
    server := process.server.close (process.clientFd index)
    clientFd := Function.update process.clientFd index (-1) }

/-- `connect(ip, iface, port, is_listening)` of a client, with the outcome of
`createSocket`. -/
def connect (process : Process) (index : Nat) (created : Created) : Process :=
  let process := process.destory index
  { process with
    server :=
      { process.server with
        openFds := process.server.openFds ∪ created.opened }
    clientFd := Function.update process.clientFd index created.returned
    unreturned := process.unreturned ∪ created.unreturned }

/-- `listen` of the server, with the outcome of `createSocket`. -/
def listen
    (process : Process) (epollFd : Int) (created : Created) (added : Bool) :
    Process :=
  let server := process.server.listen epollFd created.returned added
  { process with
    server :=
      { server with openFds := server.openFds ∪ created.unreturned }
    unreturned := process.unreturned ∪ created.unreturned }

def step (process : Process) : Call → Option Process
  | .connect index tIp ifaceIP isListening result =>
      let request := ofConnect tIp ifaceIP isListening
      some (process.connect index (request.createSocket result))
  | .destory index => some (process.destory index)
  | .listen epollFd ifaceIP result added =>
      let request := ofConnect [] ifaceIP true
      some (process.listen epollFd (request.createSocket result) added)
  | .destroy => some { process with server := process.server.destroy }
  | .poll epollWait accepts =>
      match process.server.poll epollWait accepts with
      | .ok (some server) =>
          some
            { process with
              server := server
              accepted :=
                process.accepted ++
                  accepting (epollWait process.server.maxEvents) accepts }
      | .ok none => none
      | .error _ => none

/-- The descriptors that `accept` returns are not open, and the addresses of
their sockets are new. -/
def FreshAccepts : TCPServer → List AcceptResult → Prop
  | _, [] => True
  | _, .failed _ :: _ => True
  | server, .accepted connection :: results =>
      (connection.fd : Int) ∉ server.openFds ∧
        server.fd connection.socket = -1 ∧
        FreshAccepts (server.afterAccept connection) results

/-- What the kernel and `new` promise: descriptors that are not open, and new
addresses. -/
def Fresh (before : Process) (call : Call) (_after : Process) : Prop :=
  match call with
  | .connect index tIp ifaceIP isListening result =>
      ∀ fd ∈ ((ofConnect tIp ifaceIP isListening).createSocket result).opened,
        fd ∉ (before.destory index).server.openFds
  | .destory _ => True
  | .listen epollFd ifaceIP result _ =>
      epollFd ∉ before.server.destroy.openFds ∧
        ∀ fd ∈ ((ofConnect [] ifaceIP true).createSocket result).opened,
          fd ∉ (before.server.destroy.opened epollFd).openFds
  | .destroy => True
  | .poll epollWait accepts =>
      (epollWait before.server.maxEvents).any Event.newConnections = true →
        FreshAccepts before.server accepts

/-- Each open descriptor has one owner, or was not returned. -/
def Tidy
    (server : TCPServer) (clientFd : Nat → Int) (unreturned : Finset Int) :
    Prop :=
  Owned (-1) (held server clientFd) server.openFds unreturned

section Places

variable {server : TCPServer} {clientFd : Nat → Int}
  {unreturned : Finset Int}

theorem held_setFd (socket : SocketPtr) (fd : Int) :
    held (server.setFd socket fd) clientFd =
      Function.update (held server clientFd) (.server socket) fd := by
  funext holder
  cases holder with
  | epoll | client index =>
      rw [Function.update_of_ne (by simp)]
      rfl
  | server other =>
      by_cases same : other = socket
      · rw [same, Function.update_self]
        exact if_pos rfl
      · rw [Function.update_of_ne (by simpa using same)]
        exact if_neg same

theorem held_efd (fd : Int) :
    held { server with efd := fd } clientFd =
      Function.update (held server clientFd) .epoll fd := by
  funext holder
  cases holder with
  | epoll =>
      rw [Function.update_self]
      rfl
  | server socket | client index =>
      rw [Function.update_of_ne (by simp)]
      rfl

theorem held_client (index : Nat) (fd : Int) :
    held server (Function.update clientFd index fd) =
      Function.update (held server clientFd) (.client index) fd := by
  funext holder
  cases holder with
  | epoll | server socket =>
      rw [Function.update_of_ne (by simp)]
      rfl
  | client other =>
      by_cases same : other = index
      · rw [same, Function.update_self]
        exact Function.update_self _ _ _
      · rw [Function.update_of_ne (by simpa using same)]
        exact Function.update_of_ne same _ _

theorem Tidy.destoryListener (tidy : Tidy server clientFd unreturned) :
    Tidy server.destoryListener clientFd unreturned := by
  have released := Owned.release tidy (.server .listener)
  rw [← held_setFd] at released
  exact released

theorem Tidy.closeEpoll (tidy : Tidy server clientFd unreturned) :
    Tidy { server.close server.efd with efd := -1, registered := ∅ } clientFd
      unreturned := by
  have released := Owned.release tidy .epoll
  rw [← held_efd] at released
  exact released

theorem Tidy.destroy (tidy : Tidy server clientFd unreturned) :
    Tidy server.destroy clientFd unreturned :=
  tidy.closeEpoll.destoryListener

theorem Tidy.openEpoll
    (tidy : Tidy server clientFd unreturned) {fd : Int}
    (nothing : server.efd = -1) (fresh : fd ∉ server.openFds) :
    Tidy { server.opened fd with efd := fd } clientFd unreturned := by
  have nothingHeld : held server clientFd .epoll = -1 := nothing
  have acquired := Owned.acquire tidy nothingHeld fresh
  rw [← held_efd] at acquired
  exact acquired

/-- A socket gets a descriptor that was not open. -/
theorem Tidy.setFd
    (tidy : Tidy server clientFd unreturned) {socket : SocketPtr} {fd : Int}
    (nothing : server.fd socket = -1) (fresh : fd ∉ server.openFds) :
    Tidy ((server.opened fd).setFd socket fd) clientFd unreturned := by
  have nothingHeld : held server clientFd (.server socket) = -1 := nothing
  have acquired := Owned.acquire tidy nothingHeld fresh
  rw [← held_setFd] at acquired
  exact acquired

/-- The lists and the epoll instance own nothing. -/
theorem Tidy.same
    (tidy : Tidy server clientFd unreturned) {after : TCPServer}
    (efd : after.efd = server.efd) (fd : after.fd = server.fd)
    (openFds : after.openFds = server.openFds) :
    Tidy after clientFd unreturned := by
  have sameHeld : held after clientFd = held server clientFd := by
    funext holder
    cases holder with
    | epoll =>
        exact efd
    | server socket =>
        exact congrFun fd socket
    | client index =>
        rfl
  rw [Tidy, sameHeld, openFds]
  exact tidy

theorem Tidy.listen
    (tidy : Tidy server clientFd unreturned) {epollFd : Int}
    {created : Created} (added : Bool)
    (returned :
      created.returned = -1 ∨ created.returned ∈ created.opened)
    (freshEpoll : epollFd ∉ server.destroy.openFds)
    (fresh :
      ∀ fd ∈ created.opened, fd ∉ (server.destroy.opened epollFd).openFds) :
    Tidy
      { server.listen epollFd created.returned added with
        openFds :=
          (server.listen epollFd created.returned added).openFds ∪
            created.unreturned }
      clientFd (unreturned ∪ created.unreturned) := by
  have noNull := neg_one_notMem_opened created
  have epolled := tidy.destroy.openEpoll rfl freshEpoll
  have ready := epolled.destoryListener
  have freshReady :
      ∀ fd ∈ created.opened,
        fd ∉ (server.destroy.opened epollFd).openFds.erase (-1) :=
    fun fd new member => fresh fd new (Finset.mem_of_mem_erase member)
  have listening :=
    @Owned.acquireFrom _ _ _ _ _ _ _ _ _ ready (.server .listener) _ rfl
      returned freshReady noNull
  rw [← held_setFd, ← Owned.opened_union_erase returned noNull] at listening
  cases added with
  | false | true =>
      exact listening

theorem afterAccept_places (connection : Connection) :
    (server.afterAccept connection).efd = server.efd ∧
      (server.afterAccept connection).fd =
        ((server.opened connection.fd).setFd connection.socket
          connection.fd).fd ∧
      (server.afterAccept connection).openFds =
        (server.opened connection.fd).openFds := by
  rw [afterAccept]
  cases connection.added with
  | false | true =>
      exact ⟨rfl, rfl, rfl⟩

theorem freshAccepts_congr
    {other : TCPServer} {results : List AcceptResult}
    (fd : other.fd = server.fd) (openFds : other.openFds = server.openFds)
    (fresh : FreshAccepts server results) : FreshAccepts other results := by
  induction results generalizing server other with
  | nil =>
      exact trivial
  | cons result results inductionHypothesis =>
      cases result with
      | failed errno =>
          exact trivial
      | accepted connection =>
          obtain ⟨closed, newAddress, later⟩ := fresh
          obtain ⟨_, fdOther, openOther⟩ :=
            @afterAccept_places other connection
          obtain ⟨_, fdServer, openServer⟩ :=
            @afterAccept_places server connection
          refine ⟨?_, ?_, inductionHypothesis ?_ ?_ later⟩
          · rw [openFds]
            exact closed
          · rw [fd]
            exact newAddress
          · rw [fdOther, fdServer, setFd, setFd, opened, opened, fd]
          · rw [openOther, openServer, opened, opened, openFds]

theorem Tidy.acceptLoop
    (tidy : Tidy server clientFd unreturned) {results : List AcceptResult}
    {after : TCPServer} (fresh : FreshAccepts server results)
    (returned : server.acceptLoop results = .ok (some after)) :
    Tidy after clientFd unreturned := by
  induction results generalizing server with
  | nil =>
      cases returned
  | cons result results inductionHypothesis =>
      cases result with
      | failed errno =>
          cases returned
          exact tidy
      | accepted connection =>
          obtain ⟨closed, newAddress, later⟩ := fresh
          obtain ⟨_, _, _, goesOn⟩ := acceptLoop_accepted_cases returned
          obtain ⟨efd, fd, openFds⟩ :=
            @afterAccept_places server connection
          have acquired := tidy.setFd newAddress closed
          exact
            inductionHypothesis (acquired.same efd fd openFds) later goesOn

theorem Tidy.poll
    (tidy : Tidy server clientFd unreturned)
    {epollWait : Nat → List Event} {accepts : List AcceptResult}
    {after : TCPServer}
    (fresh :
      (epollWait server.maxEvents).any Event.newConnections = true →
        FreshAccepts server accepts)
    (returned : server.poll epollWait accepts = .ok (some after)) :
    Tidy after clientFd unreturned := by
  simp only [TCPServer.poll, foldl_handleEvent, deleteDisconnected_eq,
    Bool.false_or] at returned
  by_cases announced :
      (epollWait server.maxEvents).any Event.newConnections = true
  · rw [if_pos announced] at returned
    apply Tidy.acceptLoop _ _ returned
    · exact tidy.same rfl rfl rfl
    · apply freshAccepts_congr _ _ (fresh announced)
      · rfl
      · rfl
  · rw [if_neg announced] at returned
    cases returned
    exact tidy.same rfl rfl rfl

end Places

/-! ## Every run -/

/-- What holds after every call. -/
structure Sound (process : Process) : Prop where
  tidy : Tidy process.server process.clientFd process.unreturned
  connected : ∀ socket ∈ process.accepted,
    socket ≠ .listener ∧ process.server.fd socket ≠ -1

section Runs

variable {before after : Process}

theorem sound_start : start.Sound where
  tidy :=
    { nullClosed := Finset.notMem_empty _
      mem_iff := by
        intro fd
        constructor
        · intro member
          exact absurd member (Finset.notMem_empty fd)
        · intro owned
          rcases owned with unreturned | ⟨notNull, holder, holds⟩
          · exact unreturned
          · cases holder <;> exact absurd holds.symm notNull
      once := by
        intro holder other _ notNull
        cases holder <;> exact absurd rfl notNull
      apart := fun _ => Finset.notMem_empty _ }
  connected := by
    intro socket member
    cases member

theorem Sound.destory (sound : before.Sound) (index : Nat) :
    (before.destory index).Sound where
  tidy := by
    have released := Owned.release sound.tidy (.client index)
    rw [← held_client] at released
    exact released
  connected := sound.connected

theorem Sound.connect
    (sound : before.Sound) {index : Nat} {created : Created}
    (returned :
      created.returned = -1 ∨ created.returned ∈ created.opened)
    (fresh :
      ∀ fd ∈ created.opened, fd ∉ (before.destory index).server.openFds) :
    (before.connect index created).Sound where
  tidy := by
    have released := (sound.destory index).tidy
    have nothing :
        held (before.destory index).server (before.destory index).clientFd
          (.client index) = -1 :=
      Function.update_self _ _ _
    have connected :=
      Owned.acquireFrom released nothing returned fresh
        (neg_one_notMem_opened created)
    rw [← held_client] at connected
    exact connected
  connected := sound.connected

theorem Sound.next
    (sound : before.Sound) {call : Call}
    (stepped : before.step call = some after)
    (fresh : Fresh before call after) : after.Sound := by
  cases call with
  | connect index tIp ifaceIP isListening result =>
      cases stepped
      exact sound.connect (returned_mem _ _) fresh
  | destory index =>
      cases stepped
      exact sound.destory index
  | listen epollFd ifaceIP result added =>
      cases stepped
      refine
        ⟨sound.tidy.listen added (returned_mem _ _) fresh.1 fresh.2, ?_⟩
      intro socket member
      obtain ⟨other, connected⟩ := sound.connected socket member
      refine ⟨other, ?_⟩
      have same :
          (before.listen epollFd
              ((ofConnect [] ifaceIP true).createSocket result)
              added).server.fd socket =
            before.server.fd socket := by
        cases added with
        | false | true =>
            exact (if_neg other).trans ((if_neg other).trans (if_neg other))
      rw [same]
      exact connected
  | destroy =>
      cases stepped
      refine ⟨sound.tidy.destroy, ?_⟩
      intro socket member
      obtain ⟨other, connected⟩ := sound.connected socket member
      refine ⟨other, ?_⟩
      have same : before.server.destroy.fd socket = before.server.fd socket :=
        if_neg other
      rw [same]
      exact connected
  | poll epollWait accepts =>
      rw [step] at stepped
      cases returned : before.server.poll epollWait accepts with
      | error fault =>
          simp only [returned] at stepped
          cases stepped
      | ok left =>
          cases left with
          | none =>
              simp only [returned] at stepped
              cases stepped
          | some server =>
              simp only [returned] at stepped
              cases stepped
              have tidy := sound.tidy.poll fresh returned
              have polled := polled_of_poll returned
              refine ⟨tidy, ?_⟩
              intro socket member
              by_cases made :
                  socket ∈
                    accepting (epollWait before.server.maxEvents) accepts
              · refine ⟨?_, ?_⟩
                · intro isListener
                  rw [isListener] at made
                  exact listener_notMem_accepting _ _ made
                · intro nothing
                  have isOpen := polled.madeFd socket made
                  rw [nothing] at isOpen
                  exact tidy.nullClosed isOpen
              · have earlier :=
                  (List.mem_append.mp member).resolve_right made
                rw [polled.otherFd socket made]
                exact sound.connected socket earlier

/-- In every run of the process, a descriptor is open exactly when `createSocket`
has not returned it or it is in a place, and no two places have the same; and
the descriptor of every connection ever accepted is open. -/
theorem descriptors_have_owners
    (calls : List Call) (process : Process)
    (ran : exec step calls start = some process)
    (fresh : EachStep step Fresh calls start) :
    (∀ fd,
      fd ∈ process.server.openFds ↔
        fd ∈ process.unreturned ∨
          fd ≠ -1 ∧
            ∃ holder, held process.server process.clientFd holder = fd) ∧
    (∀ holder other,
      held process.server process.clientFd holder =
          held process.server process.clientFd other →
        held process.server process.clientFd holder ≠ -1 →
        holder = other) ∧
    (∀ holder,
      held process.server process.clientFd holder ∉ process.unreturned) ∧
    ∀ socket ∈ process.accepted,
      process.server.fd socket ∈ process.server.openFds := by
  have sound : process.Sound := by
    apply fresh.invariant Sound _ sound_start ran
    intro before call after sound stepped promise
    exact sound.next stepped promise
  refine
    ⟨sound.tidy.mem_iff, fun _ _ => sound.tidy.once, sound.tidy.apart, ?_⟩
  intro socket member
  exact
    @Owned.mem_of_held _ _ _ _ _ _ sound.tidy (.server socket)
      (sound.connected socket member).2

end Runs

/-- The server listens, with two addresses, and accepts a connection; a client
connects; and the server listens again, which fails. -/
def sampleCalls : List Call :=
  [.listen 3 ['0'] (some [goodAddress 4, goodAddress 5]) true,
    .poll (fun _ => [⟨.listener, epollin⟩])
      [.accepted ⟨6, true, true, 100, true⟩, .failed 11],
    .connect 0 ['0'] [] false (some [goodAddress 7]),
    .listen 3 ['0'] (some [{ goodAddress 5 with bind := false }]) true]

/-- The descriptors of the second `listen` have numbers that the first one
used. -/
theorem descriptors_have_owners_sample :
    ∃ process,
      exec step sampleCalls start = some process ∧
        process.server.openFds = {3, 4, 5, 6, 7} ∧
        process.unreturned = {4, 5} ∧
        process.server.fd (.allocated 100) ∈ process.server.openFds := by
  have ranAll :
      ∃ process,
        exec step sampleCalls start = some process ∧
          process.server.openFds = {3, 4, 5, 6, 7} ∧
          process.unreturned = {4, 5} ∧
          process.accepted = [.allocated 100] :=
    ⟨_, rfl, by decide, by decide, rfl⟩
  obtain ⟨process, ran, openFds, unreturned, accepted⟩ := ranAll
  have fresh : EachStep step Fresh sampleCalls start := by
    intro listening listened
    cases listened
    refine ⟨⟨by decide, by decide⟩, ?_⟩
    intro accepting polled
    cases polled
    refine ⟨fun _ => ⟨by decide, by decide, trivial⟩, ?_⟩
    intro connected connects
    cases connects
    constructor
    · change ∀ fd ∈ _, fd ∉ _
      decide
    intro again listenedAgain
    cases listenedAgain
    exact ⟨⟨by decide, by decide⟩, trivial⟩
  obtain ⟨_, _, _, connected⟩ :=
    descriptors_have_owners sampleCalls process ran fresh
  refine ⟨process, ran, openFds, unreturned, connected _ ?_⟩
  rw [accepted]
  exact List.mem_singleton_self _

end Process

end LowLatencyBlocks
