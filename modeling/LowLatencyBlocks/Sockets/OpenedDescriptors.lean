import LowLatencyBlocks.Sockets.SocketUtils

/-!
# The descriptors and the address list of `createSocket`

No path of `createSocket` closes a descriptor, the loop over the addresses goes
on after a socket is ready, and the returns from inside the loop do not free the
list.  So what was acquired is accounted for exactly when there is at most one
address and everything succeeds for it.
-/

namespace LowLatencyBlocks

open Library

/-- The open descriptors behind a call, oldest first. -/
def Syscall.track (opened : List Nat) : Syscall → List Nat
  | .socket (some fd) => opened ++ [fd]
  | .close fd => opened.erase fd
  | _ => opened

/-- The descriptors opened during the calls and still open. -/
def stillOpen (calls : List Syscall) : List Nat :=
  calls.foldl Syscall.track []

namespace SocketRequest

/-- How many lists there are to free; an empty one is a null pointer. -/
def listsReturned : Option (List Answers) → Nat
  | some (_ :: _) => 1
  | some [] => 0
  | none => 0

/-- Only the descriptor returned is still open, and the list has been freed
once. -/
structure Accounted
    (result : Option (List Answers)) (created : Created) : Prop where
  descriptors : stillOpen created.calls = created.fd.toList
  freed : created.calls.count .freeaddrinfo = listsReturned result

/-- `socket()` returns a descriptor, and every requested step that the code
checks succeeds. -/
structure Succeeds (request : SocketRequest) (answers : Answers) : Prop where
  socket : answers.socket ≠ none
  nonBlocking : request.isBlocking = false →
    ∀ flags, answers.getFlags = some flags →
      flags &&& oNonblock = 0 → answers.setFlags = true
  noDelay : request.isBlocking = false → request.isUdp = false →
    answers.noDelay = true
  reuseAddr : request.isListening = true → answers.reuseAddr = true
  bind : request.isListening = true → answers.bind = true
  listen : request.isUdp = false → request.isListening = true →
    answers.listen = true
  mcastTTL : request.isUdp = true → request.ttl ≠ 0 →
    request.isMulticast = true → answers.mcastTTL = true
  ttl : request.isUdp = true → request.ttl ≠ 0 →
    request.isMulticast = false → answers.ttl = true
  soTimestamp : request.needsSoTimestamp = true →
    answers.soTimestamp = true

/-- `getaddrinfo` fails, or everything succeeds for the only address that it
returns. -/
def OneGoodAddress
    (request : SocketRequest) (result : Option (List Answers)) : Prop :=
  ∀ addresses, result = some addresses →
    addresses.length ≤ 1 ∧ ∀ answers ∈ addresses, request.Succeeds answers

section Succeeding

variable {request : SocketRequest} {answers : Answers} {fd : Nat}

theorem setNonBlocking_passes_iff
    {getFlags : Option (BitVec 32)} {setFlags : Bool} :
    (setNonBlocking fd getFlags setFlags).passes = true ↔
      ∀ flags, getFlags = some flags →
        flags &&& oNonblock = 0 → setFlags = true := by
  simp only [setNonBlocking]
  cases getFlags with
  | none =>
      -- `-1` has the bit, so that nothing is set
      rw [Option.getD_none, if_pos (by decide)]
      simp only [reduceCtorEq, false_implies, implies_true]
  | some flags =>
      rw [Option.getD_some]
      by_cases unset : flags &&& oNonblock = 0
      · rw [if_neg (not_not.mpr unset)]
        simp only [Option.some.injEq, forall_eq', unset, true_implies]
      · rw [if_pos unset]
        simp only [Option.some.injEq, forall_eq', unset, false_implies]

/-- `connect` never returns the `1` that it is compared with. -/
theorem connectCheck_passes (error : Option Int) :
    (connectCheck fd error).passes = true := by
  cases error with
  | none =>
      rfl
  | some errno =>
      rfl

theorem stages_pass_iff (socket : answers.socket = some fd) :
    (Stage.runAll (request.stages fd answers)).passes = true ↔
      request.Succeeds answers := by
  rw [Stage.runAll_passes_iff]
  simp only [stages, List.forall_mem_cons, List.not_mem_nil, false_implies,
    implies_true, and_true, true_and, Bool.and_eq_true,
    Bool.not_eq_true', bne_iff_ne, and_imp, setNonBlocking_passes_iff,
    connectCheck_passes, setNoDelay, setMcastTTL, setTTL, setSOTimestamp,
    setsockopt]
  constructor
  · rintro ⟨nonBlocking, noDelay, reuseAddr, bind, listen, mcastTTL, ttl,
      soTimestamp⟩
    refine
      ⟨?_, nonBlocking, noDelay, reuseAddr, bind, listen, mcastTTL, ttl,
        soTimestamp⟩
    rw [socket]
    exact Option.some_ne_none fd
  · intro succeeds
    exact
      ⟨succeeds.nonBlocking, succeeds.noDelay, succeeds.reuseAddr,
        succeeds.bind, succeeds.listen, succeeds.mcastTTL, succeeds.ttl,
        succeeds.soTimestamp⟩

theorem tryAddress_passes_iff_succeeds :
    (request.tryAddress answers).passes = true ↔
      request.Succeeds answers := by
  rw [tryAddress_passes_iff]
  constructor
  · rintro ⟨fd, socket, passes⟩
    exact (stages_pass_iff socket).mp passes
  · intro succeeds
    obtain ⟨fd, socket⟩ := Option.ne_none_iff_exists'.mp succeeds.socket
    exact ⟨fd, socket, (stages_pass_iff socket).mpr succeeds⟩

theorem passes_of_succeed
    {addresses : List Answers}
    (succeed : ∀ answers ∈ addresses, request.Succeeds answers) :
    ∀ answers ∈ addresses, (request.tryAddress answers).passes = true :=
  fun answers member =>
    tryAddress_passes_iff_succeeds.mpr (succeed answers member)

theorem exists_fails_of_not_succeed
    {addresses : List Answers}
    (fail : ¬ ∀ answers ∈ addresses, request.Succeeds answers) :
    ∃ answers ∈ addresses, (request.tryAddress answers).passes = false := by
  rw [not_forall₂] at fail
  obtain ⟨answers, member, fails⟩ := fail
  rw [← tryAddress_passes_iff_succeeds, Bool.not_eq_true] at fails
  exact ⟨answers, member, fails⟩

end Succeeding

section Calls

variable {request : SocketRequest} {answers : Answers}
  {addresses : List Answers} {fd : Option Nat}

theorem track_of_sets
    {call : Syscall} {on : Nat} (sets : call.Sets on) (opened : List Nat) :
    call.track opened = opened := by
  cases call with
  | socket _ | close _ =>
      cases sets
  | fcntlGetFlags _ _ | fcntlSetFlags _ _ _ | setsockopt _ _ _ _ _
  | connect _ _ | bind _ _ | listen _ _ _ | freeaddrinfo =>
      rfl

theorem foldl_track_of_sets
    {calls : List Syscall} {on : Nat}
    (sets : ∀ call ∈ calls, call.Sets on) (opened : List Nat) :
    calls.foldl Syscall.track opened = opened := by
  induction calls with
  | nil =>
      rfl
  | cons call calls inductionHypothesis =>
      rw [List.forall_mem_cons] at sets
      rw [List.foldl_cons, track_of_sets sets.1,
        inductionHypothesis sets.2]

/-- An address leaves its descriptor open. -/
theorem foldl_track_tryAddress
    (request : SocketRequest) (answers : Answers) (opened : List Nat) :
    (request.tryAddress answers).events.foldl Syscall.track opened =
      opened ++ answers.socket.toList := by
  cases socket : answers.socket with
  | none =>
      rw [tryAddress_of_none socket]
      exact (List.append_nil opened).symm
  | some fd =>
      rw [tryAddress_of_some socket, List.foldl_cons]
      exact
        foldl_track_of_sets (fun _ member => sets_of_mem_stages member)
          (opened ++ [fd])

theorem foldl_track_addresses
    (request : SocketRequest) (addresses : List Answers)
    (opened : List Nat) :
    (addresses.flatMap fun answers =>
        (request.tryAddress answers).events).foldl Syscall.track opened =
      opened ++ addresses.flatMap fun answers => answers.socket.toList := by
  induction addresses generalizing opened with
  | nil =>
      exact (List.append_nil opened).symm
  | cons answers rest inductionHypothesis =>
      rw [List.flatMap_cons, List.foldl_append, foldl_track_tryAddress,
        inductionHypothesis, List.flatMap_cons, List.append_assoc]

theorem freeaddrinfo_notMem_tryAddress
    (request : SocketRequest) (answers : Answers) :
    .freeaddrinfo ∉ (request.tryAddress answers).events := by
  intro member
  cases socket : answers.socket with
  | none =>
      rw [tryAddress_of_none socket] at member
      cases List.mem_singleton.mp member
  | some fd =>
      rw [tryAddress_of_some socket] at member
      rcases List.mem_cons.mp member with isSocket | inStages
      · cases isSocket
      · exact sets_of_mem_stages inStages

/-- The loop does not free the list. -/
theorem count_freeaddrinfo_loop :
    (request.addressLoop fd addresses).2.count .freeaddrinfo = 0 := by
  apply List.count_eq_zero_of_not_mem
  intro member
  obtain ⟨answers, _, found⟩ := mem_addressLoop member
  exact freeaddrinfo_notMem_tryAddress request answers found

/-- What `createSocket` leaves when every address passes. -/
theorem createSocket_of_passes
    (passes :
      ∀ answers ∈ addresses, (request.tryAddress answers).passes = true) :
    request.createSocket (some addresses) =
      ⟨addresses.foldl (fun _ answers => answers.socket) none,
        (addresses.flatMap fun answers =>
            (request.tryAddress answers).events) ++
          if addresses.isEmpty then [] else [.freeaddrinfo]⟩ := by
  rw [createSocket, addressLoop_of_passes passes]

theorem createSocket_of_fails
    (fails :
      ∃ answers ∈ addresses, (request.tryAddress answers).passes = false) :
    request.createSocket (some addresses) =
      ⟨none, (request.addressLoop none addresses).2⟩ := by
  have left : (request.addressLoop none addresses).1 = none :=
    addressLoop_of_fails fails
  rw [createSocket]
  cases loop : request.addressLoop none addresses with
  | mk fd calls =>
      rw [loop] at left
      cases left
      rfl

end Calls

section Accounting

variable {request : SocketRequest} {addresses : List Answers}

/-- Every descriptor opened for a passing address. -/
theorem length_sockets
    (passes :
      ∀ answers ∈ addresses, (request.tryAddress answers).passes = true) :
    (addresses.flatMap fun answers => answers.socket.toList).length =
      addresses.length := by
  induction addresses with
  | nil =>
      rfl
  | cons answers rest inductionHypothesis =>
      rw [List.forall_mem_cons] at passes
      obtain ⟨fd, socket, _⟩ := tryAddress_passes_iff.mp passes.1
      rw [List.flatMap_cons, List.length_append,
        inductionHypothesis passes.2, socket, Option.toList_some,
        List.length_singleton, List.length_cons, Nat.add_comm]

theorem stillOpen_of_passes
    (passes :
      ∀ answers ∈ addresses, (request.tryAddress answers).passes = true) :
    stillOpen (request.createSocket (some addresses)).calls =
      addresses.flatMap fun answers => answers.socket.toList := by
  rw [createSocket_of_passes passes, stillOpen, List.foldl_append,
    foldl_track_addresses, List.nil_append]
  by_cases empty : addresses.isEmpty = true
  · rw [if_pos empty]
    rfl
  · rw [if_neg empty]
    rfl

theorem count_freeaddrinfo_of_passes
    (passes :
      ∀ answers ∈ addresses, (request.tryAddress answers).passes = true) :
    (request.createSocket (some addresses)).calls.count .freeaddrinfo =
      listsReturned (some addresses) := by
  have loop : (request.addressLoop none addresses).2.count
      .freeaddrinfo = 0 :=
    count_freeaddrinfo_loop
  rw [addressLoop_of_passes passes] at loop
  rw [createSocket_of_passes passes, List.count_append, loop]
  cases addresses with
  | nil =>
      rfl
  | cons answers rest =>
      rfl

/-- When every address passes, only the last descriptor is returned. -/
theorem accounted_iff_of_passes
    (passes :
      ∀ answers ∈ addresses, (request.tryAddress answers).passes = true) :
    Accounted (some addresses) (request.createSocket (some addresses)) ↔
      addresses.length ≤ 1 := by
  have opened := stillOpen_of_passes passes
  constructor
  · rintro ⟨descriptors, _⟩
    rw [← length_sockets passes, ← opened, descriptors]
    exact Option.length_toList_le
  · intro atMostOne
    refine ⟨?_, count_freeaddrinfo_of_passes passes⟩
    rw [opened, createSocket_of_passes passes]
    cases addresses with
    | nil =>
        rw [List.flatMap_nil, List.foldl_nil, Option.toList_none]
    | cons answers rest =>
        have alone : rest = [] := by
          apply List.eq_nil_of_length_eq_zero
          rw [List.length_cons] at atMostOne
          omega
        rw [alone, List.flatMap_cons, List.flatMap_nil, List.append_nil,
          List.foldl_cons, List.foldl_nil]

/-- A return from inside the loop does not free the list. -/
theorem not_accounted_of_fails
    (fails :
      ∃ answers ∈ addresses, (request.tryAddress answers).passes = false) :
    ¬ Accounted (some addresses)
        (request.createSocket (some addresses)) := by
  rintro ⟨_, freed⟩
  rw [createSocket_of_fails fails, count_freeaddrinfo_loop] at freed
  cases addresses with
  | nil =>
      obtain ⟨_, member, _⟩ := fails
      cases member
  | cons first rest =>
      cases freed

end Accounting

/-- `createSocket` accounts for what it acquires exactly when `getaddrinfo`
fails or there is at most one address, and everything succeeds for it. -/
theorem createSocket_accounts_iff
    (request : SocketRequest) (result : Option (List Answers)) :
    Accounted result (request.createSocket result) ↔
      request.OneGoodAddress result := by
  cases result with
  | none =>
      constructor
      · intro _ addresses returned
        cases returned
      · intro _
        exact ⟨rfl, rfl⟩
  | some addresses =>
      simp only [OneGoodAddress, Option.some.injEq, forall_eq']
      by_cases succeed : ∀ answers ∈ addresses, request.Succeeds answers
      · rw [accounted_iff_of_passes (passes_of_succeed succeed)]
        exact (and_iff_left succeed).symm
      · have fails := exists_fails_of_not_succeed succeed
        constructor
        · intro accounted
          exact absurd accounted (not_accounted_of_fails fails)
        · rintro ⟨_, all⟩
          exact absurd all succeed

/-- What the server asks for on the loopback interface. -/
def serverRequest : SocketRequest where
  tIp := []
  ifaceIP := ['1', '2', '7', '.', '0', '.', '0', '.', '1']
  isUdp := false
  isBlocking := false
  isListening := true
  ttl := 0
  needsSoTimestamp := true

/-- An address for which every call succeeds. -/
def goodAddress (fd : Nat) : Answers where
  socket := some fd
  getFlags := some 2
  setFlags := true
  noDelay := true
  connect := none
  reuseAddr := true
  bind := true
  listen := true
  mcastTTL := true
  ttl := true
  soTimestamp := true

/-- The second address replaces the descriptor of the first; a failing `bind`
leaves the descriptor and the list behind. -/
theorem createSocket_leaks :
    ¬ Accounted (some [goodAddress 3, goodAddress 4])
        (serverRequest.createSocket
          (some [goodAddress 3, goodAddress 4])) ∧
      ¬ Accounted (some [{ goodAddress 3 with bind := false }])
        (serverRequest.createSocket
          (some [{ goodAddress 3 with bind := false }])) := by
  constructor
  · intro accounted
    exact absurd accounted.descriptors (by decide)
  · intro accounted
    exact absurd accounted.freed (by decide)

end SocketRequest

end LowLatencyBlocks
