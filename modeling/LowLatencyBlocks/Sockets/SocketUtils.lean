import Mathlib.Data.List.Flatten
import LowLatencyBlocks.Library.Checks
import LowLatencyBlocks.Sockets.TCPSocket

/-!
# Creating a socket

`createSocket` of `socket_utils.cpp` and the functions it uses.  What the system
calls return is a parameter: for each address that `getaddrinfo` returned, the
result of every call that may be made for it.  The calls made are recorded, with
their results, in the order in which they are made.

The addresses themselves are only passed to the kernel, and the lines written to
the log are not read again; they are left out, and so are the hints for
`getaddrinfo`.
-/

namespace LowLatencyBlocks

open Library

/-- A system call with its result: a descriptor or flags, if any; the `errno` of
a failed `connect`; and whether it succeeds for the others. -/
inductive Syscall where
  | socket (fd : Option Nat)
  | fcntlGetFlags (fd : Nat) (flags : Option (BitVec 32))
  | fcntlSetFlags (fd : Nat) (flags : BitVec 32) (succeeds : Bool)
  | setsockopt
      (fd level name : Nat) (value : Int) (succeeds : Bool)
  | connect (fd : Nat) (error : Option Int)
  | bind (fd : Nat) (succeeds : Bool)
  | listen (fd backlog : Nat) (succeeds : Bool)
  | close (fd : Nat)
  | freeaddrinfo
  deriving DecidableEq, Repr

/-- A call that only sets something on the descriptor. -/
def Syscall.Sets (fd : Nat) : Syscall → Prop
  | .fcntlGetFlags on _ => on = fd
  | .fcntlSetFlags on _ _ => on = fd
  | .setsockopt on _ _ _ _ => on = fd
  | .connect on _ => on = fd
  | .bind on _ => on = fd
  | .listen on _ _ => on = fd
  | .socket _ => False
  | .close _ => False
  | .freeaddrinfo => False

/-! ## Constants -/

def oNonblock : BitVec 32 :=
  0x800

def ipprotoIp : Nat :=
  0

def ipprotoTcp : Nat :=
  6

def soReuseaddr : Nat :=
  2

def soTimestamp : Nat :=
  29

def tcpNodelay : Nat :=
  1

def ipTtl : Nat :=
  2

def ipMulticastTtl : Nat :=
  33

/-- `MaxTCPServerBacklog`. -/
def maxTCPServerBacklog : Nat :=
  1024

/-! ## The functions that set something -/

/-- `setNonBlocking(fd)`; `-1` of a failing `F_GETFL` has every flag. -/
def setNonBlocking
    (fd : Nat) (getFlags : Option (BitVec 32)) (setFlags : Bool) :
    Check Syscall :=
  let flags := getFlags.getD (BitVec.allOnes 32)
  if flags &&& oNonblock ≠ 0 then
    ⟨true, [.fcntlGetFlags fd getFlags]⟩
  else
    ⟨setFlags,
      [.fcntlGetFlags fd getFlags,
        .fcntlSetFlags fd (flags ||| oNonblock) setFlags]⟩

/-- `setsockopt(...) != -1`. -/
def setsockopt
    (fd level name : Nat) (value : Int) (succeeds : Bool) :
    Check Syscall :=
  ⟨succeeds, [.setsockopt fd level name value succeeds]⟩

/-- `setNoDelay(fd)`. -/
def setNoDelay (fd : Nat) (succeeds : Bool) : Check Syscall :=
  setsockopt fd ipprotoTcp tcpNodelay 1 succeeds

/-- `setSOTimestamp(fd)`. -/
def setSOTimestamp (fd : Nat) (succeeds : Bool) : Check Syscall :=
  setsockopt fd solSocket soTimestamp 1 succeeds

/-- `setTTL(fd, ttl)`; the level is the one of TCP. -/
def setTTL (fd : Nat) (ttl : Int) (succeeds : Bool) : Check Syscall :=
  setsockopt fd ipprotoTcp ipTtl ttl succeeds

/-- `setMcastTTL(fd, mcast_ttl)`; the level is the one of TCP. -/
def setMcastTTL (fd : Nat) (mcastTTL : Int) (succeeds : Bool) :
    Check Syscall :=
  setsockopt fd ipprotoTcp ipMulticastTtl mcastTTL succeeds

/-! ## `createSocket` -/

/-- `isspace`. -/
def isSpace (character : Char) : Bool :=
  character == ' ' || '\t'.toNat ≤ character.toNat &&
    character.toNat ≤ '\r'.toNat

/-- The leading digits as a number. -/
def leadingNumber (text : List Char) : Nat :=
  (text.takeWhile Char.isDigit).foldl
    (fun number digit => 10 * number + (digit.toNat - '0'.toNat)) 0

/-- `atoi(text)`. -/
def atoi (text : List Char) : Int :=
  match text.dropWhile isSpace with
  | '-' :: digits => -(leadingNumber digits : Int)
  | '+' :: digits => leadingNumber digits
  | digits => leadingNumber digits

/-- The arguments of `createSocket`, and the address of the interface. -/
structure SocketRequest where
  tIp : List Char
  ifaceIP : List Char
  isUdp : Bool
  isBlocking : Bool
  isListening : Bool
  ttl : Int
  needsSoTimestamp : Bool

/-- The results of the calls for one address: of `socket`, a descriptor if any;
of `F_GETFL`, flags if any; of `connect`, the `errno` if it fails; and for the
others whether they succeed. -/
structure Answers where
  socket : Option Nat
  getFlags : Option (BitVec 32)
  setFlags : Bool
  noDelay : Bool
  connect : Option Int
  reuseAddr : Bool
  bind : Bool
  listen : Bool
  mcastTTL : Bool
  ttl : Bool
  soTimestamp : Bool

namespace SocketRequest

def ip (request : SocketRequest) : List Char :=
  if request.tIp.isEmpty then request.ifaceIP else request.tIp

/-- `atoi(ip.c_str()) & 0xe0`. -/
def isMulticast (request : SocketRequest) : Bool :=
  BitVec.ofInt 32 (atoi request.ip) &&& 0xe0 != 0

/-- `connect(...) == 1 && !wouldBlock()` is what fails; `connect` returns `0` or
`-1`. -/
def connectCheck (fd : Nat) (error : Option Int) : Check Syscall :=
  let returned : Int := if error.isSome then -1 else 0
  ⟨!(returned == 1 && error.any fun errno => !wouldBlock errno),
    [.connect fd error]⟩

/-- The body of the loop behind `socket()`: every `if` that can return `-1`. -/
def stages (request : SocketRequest) (fd : Nat) (answers : Answers) :
    List (Stage Syscall) :=
  [⟨!request.isBlocking,
      setNonBlocking fd answers.getFlags answers.setFlags⟩,
    ⟨!request.isBlocking && !request.isUdp, setNoDelay fd answers.noDelay⟩,
    ⟨!request.isListening, connectCheck fd answers.connect⟩,
    ⟨request.isListening,
      setsockopt fd solSocket soReuseaddr 1 answers.reuseAddr⟩,
    ⟨request.isListening, answers.bind, [.bind fd answers.bind]⟩,
    ⟨!request.isUdp && request.isListening, answers.listen,
      [.listen fd maxTCPServerBacklog answers.listen]⟩,
    ⟨request.isUdp && request.ttl != 0 && request.isMulticast,
      setMcastTTL fd request.ttl answers.mcastTTL⟩,
    ⟨request.isUdp && request.ttl != 0 && !request.isMulticast,
      setTTL fd request.ttl answers.ttl⟩,
    ⟨request.needsSoTimestamp, setSOTimestamp fd answers.soTimestamp⟩]

/-- One turn of the loop. -/
def tryAddress (request : SocketRequest) (answers : Answers) :
    Check Syscall :=
  match answers.socket with
  | none => ⟨false, [.socket none]⟩
  | some fd =>
      let checked := Stage.runAll (request.stages fd answers)
      ⟨checked.passes, .socket (some fd) :: checked.events⟩

/-- The loop over the addresses, from a value of `fd` on: the value that it
leaves, or `none` when it returns `-1`, and the calls made. -/
def addressLoop (request : SocketRequest) (fd : Option Nat) :
    List Answers → Option (Option Nat) × List Syscall
  | [] => (some fd, [])
  | answers :: rest =>
      let turn := request.tryAddress answers
      if turn.passes then
        let (left, calls) := request.addressLoop answers.socket rest
        (left, turn.events ++ calls)
      else
        (none, turn.events)

/-- The descriptor returned, or `none` for `-1`, and the calls made. -/
structure Created where
  fd : Option Nat
  calls : List Syscall

/-- `createSocket`, where `result` is the list that `getaddrinfo` returns, if it
succeeds. -/
def createSocket (request : SocketRequest) (result : Option (List Answers)) :
    Created :=
  match result with
  | none => ⟨none, []⟩
  | some addresses =>
      match request.addressLoop none addresses with
      | (none, calls) => ⟨none, calls⟩
      | (some fd, calls) =>
          ⟨fd, calls ++ if addresses.isEmpty then [] else [.freeaddrinfo]⟩

/-! ## What the loop does -/

/-- The calls that can follow `socket()`. -/
inductive Follows (fd : Nat) (answers : Answers) : Syscall → Prop
  | getsFlags : Follows fd answers (.fcntlGetFlags fd answers.getFlags)
  | setsFlags (flags : BitVec 32) (succeeds : Bool) :
      answers.getFlags ≠ none →
      Follows fd answers (.fcntlSetFlags fd flags succeeds)
  | connects : Follows fd answers (.connect fd answers.connect)
  | binds (succeeds : Bool) : Follows fd answers (.bind fd succeeds)
  | listens (backlog : Nat) (succeeds : Bool) :
      Follows fd answers (.listen fd backlog succeeds)
  | setsOption
      (level name : Nat) (value : Int) (succeeds : Bool) :
      level ≠ ipprotoIp →
      Follows fd answers (.setsockopt fd level name value succeeds)

section Following

variable {request : SocketRequest} {fd : Nat} {answers : Answers}
  {call : Syscall}

theorem follows_of_mem_setNonBlocking
    (member :
      call ∈ (setNonBlocking fd answers.getFlags answers.setFlags).events) :
    Follows fd answers call := by
  simp only [setNonBlocking] at member
  by_cases already :
      answers.getFlags.getD (BitVec.allOnes 32) &&& oNonblock ≠ 0
  · rw [if_pos already, List.mem_singleton] at member
    rw [member]
    exact Follows.getsFlags
  · rw [if_neg already, List.mem_pair] at member
    rcases member with rfl | rfl
    · exact Follows.getsFlags
    · apply Follows.setsFlags
      intro failed
      rw [failed] at already
      exact already (by decide)

theorem follows_of_mem_stages
    (member :
      call ∈ (Stage.runAll (request.stages fd answers)).events) :
    Follows fd answers call := by
  obtain ⟨stage, inStages, _, found⟩ := Stage.exists_stage_of_mem member
  simp only [stages, List.mem_cons, List.not_mem_nil, or_false] at inStages
  rcases inStages with
    rfl | rfl | rfl | rfl | rfl | rfl | rfl | rfl | rfl
  · exact follows_of_mem_setNonBlocking found
  -- each of the others makes one call
  all_goals cases List.mem_singleton.mp found
  · exact Follows.setsOption _ _ _ _ (by decide)
  · exact Follows.connects
  · exact Follows.setsOption _ _ _ _ (by decide)
  · exact Follows.binds _
  · exact Follows.listens _ _
  · exact Follows.setsOption _ _ _ _ (by decide)
  · exact Follows.setsOption _ _ _ _ (by decide)
  · exact Follows.setsOption _ _ _ _ (by decide)

theorem Follows.sets (follows : Follows fd answers call) :
    call.Sets fd := by
  cases follows <;> rfl

/-- The calls behind `socket()` only set something on its descriptor. -/
theorem sets_of_mem_stages
    (member :
      call ∈ (Stage.runAll (request.stages fd answers)).events) :
    call.Sets fd :=
  (follows_of_mem_stages member).sets

end Following

section Loop

variable {request : SocketRequest} {answers : Answers}
  {addresses : List Answers} {fd : Option Nat}

theorem tryAddress_of_none (failed : answers.socket = none) :
    request.tryAddress answers = ⟨false, [.socket none]⟩ := by
  rw [tryAddress, failed]

theorem tryAddress_of_some
    {opened : Nat} (socket : answers.socket = some opened) :
    request.tryAddress answers =
      ⟨(Stage.runAll (request.stages opened answers)).passes,
        .socket (some opened) ::
          (Stage.runAll (request.stages opened answers)).events⟩ := by
  rw [tryAddress, socket]

theorem tryAddress_passes_iff :
    (request.tryAddress answers).passes = true ↔
      ∃ opened,
        answers.socket = some opened ∧
          (Stage.runAll (request.stages opened answers)).passes =
            true := by
  cases socket : answers.socket with
  | none =>
      rw [tryAddress_of_none socket]
      simp
  | some opened =>
      rw [tryAddress_of_some socket]
      simp

/-- When every address passes, the last one's descriptor is left. -/
theorem addressLoop_of_passes
    (passes :
      ∀ answers ∈ addresses, (request.tryAddress answers).passes = true) :
    request.addressLoop fd addresses =
      (some (addresses.foldl (fun _ answers => answers.socket) fd),
        addresses.flatMap fun answers =>
          (request.tryAddress answers).events) := by
  induction addresses generalizing fd with
  | nil =>
      rfl
  | cons first rest inductionHypothesis =>
      rw [List.forall_mem_cons] at passes
      rw [addressLoop, if_pos passes.1, inductionHypothesis passes.2,
        List.foldl_cons, List.flatMap_cons]

/-- The first address that does not pass ends the loop. -/
theorem addressLoop_of_fails
    (fails :
      ∃ answers ∈ addresses, (request.tryAddress answers).passes = false) :
    (request.addressLoop fd addresses).1 = none := by
  induction addresses generalizing fd with
  | nil =>
      obtain ⟨_, member, _⟩ := fails
      cases member
  | cons first rest inductionHypothesis =>
      rw [addressLoop]
      by_cases passes : (request.tryAddress first).passes = true
      · rw [if_pos passes]
        apply inductionHypothesis
        obtain ⟨answers, member, failsThen⟩ := fails
        rcases List.mem_cons.mp member with rfl | inRest
        · rw [passes] at failsThen
          cases failsThen
        · exact ⟨answers, inRest, failsThen⟩
      · rw [if_neg passes]

/-- Every call of the loop is one for an address. -/
theorem mem_addressLoop
    {call : Syscall}
    (member : call ∈ (request.addressLoop fd addresses).2) :
    ∃ answers ∈ addresses, call ∈ (request.tryAddress answers).events := by
  induction addresses generalizing fd with
  | nil =>
      cases member
  | cons first rest inductionHypothesis =>
      rw [addressLoop] at member
      by_cases here : call ∈ (request.tryAddress first).events
      · exact ⟨first, List.mem_cons_self, here⟩
      · by_cases passes : (request.tryAddress first).passes = true
        · rw [if_pos passes] at member
          have later := (List.mem_append.mp member).resolve_left here
          obtain ⟨answers, inRest, found⟩ := inductionHypothesis later
          exact ⟨answers, List.mem_cons_of_mem _ inRest, found⟩
        · rw [if_neg passes] at member
          exact absurd member here

end Loop

end SocketRequest

end LowLatencyBlocks
