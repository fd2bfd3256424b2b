import LowLatencyBlocks.Library.Buffer
import LowLatencyBlocks.Macros

/-!
# The TCP socket

`TCPSocket` of `tcp_socket.cpp`.  What the kernel does in a call is a parameter
of the call: the result of `recvmsg`, and one result for each `::send` of the
loop.  The receive callback is a parameter too.

The descriptor, the sender's address and the flags of `::send` are only passed
to the kernel, and the lines written to the log are not read again; they are
left out.
-/

namespace LowLatencyBlocks

open Library

/-- `TCPBufferSize`. -/
def tcpBufferSize : Nat :=
  64 * 1024 * 1024

/-- The values of `errno` that `wouldBlock()` names. -/
def ewouldblock : Int :=
  11

def einprogress : Int :=
  115

/-- `wouldBlock()`. -/
def wouldBlock (errno : Int) : Bool :=
  errno == ewouldblock || errno == einprogress

/-- `TCPSocket`, with both buffers as the constructor allocates them: they end
at `TCPBufferSize`. -/
structure TCPSocket where
  sendDisconnected : Bool
  sendBuffer : Buffer UInt8
  nextSendValidIndex : Nat
  rcvBuffer : Buffer UInt8
  nextRcvValidIndex : Nat

/-- What one `::send` returns: the number of bytes it accepted, or `-1` with an
`errno`. -/
inductive SendResult where
  | accepted (count : Nat)
  | failed (errno : Int)
  deriving DecidableEq, Repr

/-- The contract of `::send` for a request of `length` bytes. -/
def SendResult.Allowed (length : Int) : SendResult → Prop
  | .accepted count => 1 ≤ count ∧ (count : Int) ≤ length
  | .failed _ => True

instance (length : Int) (result : SendResult) :
    Decidable (result.Allowed length) := by
  cases result <;> unfold SendResult.Allowed <;> infer_instance

/-- What `recvmsg` returns: the bytes and the control messages it delivered, or
`-1` with an `errno`. -/
inductive RecvResult where
  | delivered (bytes control : List UInt8)
  | failed (errno : Int)
  deriving DecidableEq, Repr

/-- `n_rcv`. -/
def RecvResult.nRcv : RecvResult → Int
  | .delivered bytes _ => bytes.length
  | .failed _ => -1

/-- `sizeof(ctrl)`, that is `CMSG_SPACE(sizeof(struct timeval))`. -/
def sizeofCtrl : Nat :=
  32

/-- The contract of `recvmsg` for a buffer of `iovLen` bytes. -/
def RecvResult.Allowed (iovLen : Nat) : RecvResult → Prop
  | .delivered bytes control =>
      bytes.length ≤ iovLen ∧ control.length ≤ sizeofCtrl
  | .failed _ => True

instance (iovLen : Nat) (received : RecvResult) :
    Decidable (received.Allowed iovLen) := by
  cases received <;> unfold RecvResult.Allowed <;> infer_instance

/-! ## The timestamp of a received message -/

/-- The field of `width` bytes at `offset`, as an unsigned number. -/
def littleEndian (bytes : List UInt8) (offset width : Nat) : Nat :=
  ((bytes.drop offset).take width).foldr
    (fun byte rest => byte.toNat + 256 * rest) 0

def solSocket : Nat :=
  1

def scmTimestamp : Nat :=
  29

/-- `CMSG_LEN(sizeof(time_kernel))`. -/
def cmsgLen : Nat :=
  32

def nanosToMicros : Int64 :=
  1000

def nanosToSecs : Int64 :=
  1000000000

/-- `kernel_time`, from the first control message in `ctrl`: `cmsg_len`,
`cmsg_level` and `cmsg_type`, and behind them the two words of a `timeval`. -/
def kernelTime (ctrl : List UInt8) : Int64 :=
  if littleEndian ctrl 8 4 = solSocket ∧
      littleEndian ctrl 12 4 = scmTimestamp ∧
      littleEndian ctrl 0 8 = cmsgLen then
    Int64.ofNat (littleEndian ctrl 16 8) * nanosToSecs +
      Int64.ofNat (littleEndian ctrl 24 8) * nanosToMicros
  else
    0

/-- What a receive callback does to its socket: it may take the received bytes,
that is set `next_rcv_valid_index_` to zero, and it may call `send`. -/
structure Reaction where
  takesReceived : Bool
  sends : List (List UInt8)

/-- `recv_callback_`, called with the socket and `rx_time`. -/
abbrev RecvCallback :=
  TCPSocket → Int64 → Reaction

namespace TCPSocket

/-- `TCPSocket(logger)`: the contents of the two buffers are arbitrary. -/
def make (sendMemory rcvMemory : Buffer UInt8) : TCPSocket where
  sendDisconnected := false
  sendBuffer := sendMemory
  nextSendValidIndex := 0
  rcvBuffer := rcvMemory
  nextRcvValidIndex := 0

/-- `send_buffer_[0, next_send_valid_index_)`. -/
def held (socket : TCPSocket) : List UInt8 :=
  socket.sendBuffer.cells 0 socket.nextSendValidIndex

/-- `send(data, len)`, with the `memcpy` checked against the end of the
buffer. -/
def send (socket : TCPSocket) (data : List UInt8) :
    Except Fault TCPSocket :=
  if 0 < data.length then
    if socket.nextSendValidIndex + data.length ≤ tcpBufferSize then
      .ok { socket with
        sendBuffer :=
          socket.sendBuffer.write socket.nextSendValidIndex data
        nextSendValidIndex := socket.nextSendValidIndex + data.length }
    else
      .error (.outOfRange (max tcpBufferSize socket.nextSendValidIndex))
  else
    .ok socket

/-- `iov.iov_len`; the subtraction is one of `size_t`. -/
def iovLen (socket : TCPSocket) : Nat :=
  (2 ^ 64 + tcpBufferSize - socket.nextRcvValidIndex) % 2 ^ 64

/-- The received bytes appended to `rcv_buffer_`. -/
def deliver (socket : TCPSocket) (bytes : List UInt8) : TCPSocket :=
  { socket with
    rcvBuffer := socket.rcvBuffer.write socket.nextRcvValidIndex bytes
    nextRcvValidIndex := socket.nextRcvValidIndex + bytes.length }

/-- What the callback is called for and what it then does, if it is called: the
control messages are written over the first bytes of `ctrl`. -/
def reaction
    (socket : TCPSocket) (ctrl : List UInt8)
    (received : RecvResult) (callback : RecvCallback) : Option Reaction :=
  match received with
  | .delivered bytes control =>
      if 0 < bytes.length then
        some
          (callback (socket.deliver bytes)
            (kernelTime (control ++ ctrl.drop control.length)))
      else
        none
  | .failed _ => none

/-- `sendAndRecv()` up to the send loop. -/
def receive
    (socket : TCPSocket) (ctrl : List UInt8)
    (received : RecvResult) (callback : RecvCallback) :
    Except Fault TCPSocket :=
  match received, socket.reaction ctrl received callback with
  | .delivered bytes _, some reaction =>
      let socket := socket.deliver bytes
      let socket :=
        if reaction.takesReceived then
          { socket with nextRcvValidIndex := 0 }
        else
          socket
      reaction.sends.foldlM send socket
  | _, _ => .ok socket

/-- The send loop, with the results of its `::send` calls: the value of
`send_disconnected_` behind it and the bytes that the kernel accepted.  `none`
when the loop does not leave after exactly these results. -/
def sendLoop (socket : TCPSocket) :
    Bool → Int → List SendResult → Option (Bool × List UInt8)
  | disconnected, nSend, [] =>
      if 0 < nSend then none else some (disconnected, [])
  | disconnected, nSend, result :: results =>
      if 0 < nSend then
        let nSendThisMsg := min (socket.nextSendValidIndex : Int) nSend
        if result.Allowed nSendThisMsg then
          match result with
          | .accepted count => do
              let (after, sent) ←
                socket.sendLoop disconnected (nSend - count) results
              -- every request starts at `send_buffer_`
              return (after, socket.sendBuffer.cells 0 count ++ sent)
          | .failed errno =>
              -- `n_send -= n` with `n = -1`, and no way out of the loop
              socket.sendLoop (disconnected || !wouldBlock errno)
                (nSend - (-1)) results
        else
          none
      else
        none

/-- What a call of `sendAndRecv` leaves behind. -/
structure Returned where
  socket : TCPSocket
  /-- The value returned. -/
  anyReceived : Bool
  /-- The bytes that the kernel accepted, in order. -/
  sent : List UInt8

/-- `sendAndRecv()`.  `none` when with these results the call does not return,
or a `memcpy` of the callback's sends leaves the buffer. -/
def sendAndRecv
    (socket : TCPSocket) (ctrl : List UInt8) (received : RecvResult)
    (callback : RecvCallback) (results : List SendResult) :
    Option Returned :=
  if received.Allowed socket.iovLen then
    match socket.receive ctrl received callback with
    | .ok buffered => do
        let nSend := min tcpBufferSize buffered.nextSendValidIndex
        let (disconnected, sent) ←
          buffered.sendLoop buffered.sendDisconnected nSend results
        return {
          socket :=
            { buffered with
              sendDisconnected := disconnected
              nextSendValidIndex := 0 }
          anyReceived := decide (0 < received.nRcv)
          sent := sent }
    | .error _ => none
  else
    none

/-! ## What is buffered for sending -/

/-- Every byte held lies in the buffer. -/
def Fits (socket : TCPSocket) : Prop :=
  socket.nextSendValidIndex ≤ tcpBufferSize

@[simp]
theorem length_held (socket : TCPSocket) :
    socket.held.length = socket.nextSendValidIndex :=
  Buffer.length_cells

/-- The bytes are appended to the ones held, and no `::send` is made. -/
structure Appends
    (before after : TCPSocket) (data : List UInt8) : Prop where
  held : after.held = before.held ++ data
  sendDisconnected : after.sendDisconnected = before.sendDisconnected
  fits : before.Fits → after.Fits

theorem Appends.refl (socket : TCPSocket) : socket.Appends socket [] where
  held := (List.append_nil _).symm
  sendDisconnected := rfl
  fits := id

theorem Appends.trans
    {before middle after : TCPSocket} {first second : List UInt8}
    (earlier : before.Appends middle first)
    (later : middle.Appends after second) :
    before.Appends after (first ++ second) where
  held := by
    rw [later.held, earlier.held, List.append_assoc]
  sendDisconnected :=
    later.sendDisconnected.trans earlier.sendDisconnected
  fits := later.fits ∘ earlier.fits

/-- A `send` that returns has nothing to copy, or copies behind what is
held. -/
theorem send_cases
    {before after : TCPSocket} {data : List UInt8}
    (sent : before.send data = .ok after) :
    data = [] ∧ after = before ∨
      before.nextSendValidIndex + data.length ≤ tcpBufferSize ∧
        after =
          { before with
            sendBuffer :=
              before.sendBuffer.write before.nextSendValidIndex data
            nextSendValidIndex :=
              before.nextSendValidIndex + data.length } := by
  rw [send] at sent
  by_cases anything : 0 < data.length
  · rw [if_pos anything] at sent
    by_cases room :
        before.nextSendValidIndex + data.length ≤ tcpBufferSize
    · rw [if_pos room] at sent
      cases sent
      exact Or.inr ⟨room, rfl⟩
    · rw [if_neg room] at sent
      cases sent
  · rw [if_neg anything] at sent
    cases sent
    have empty : data = [] :=
      List.eq_nil_of_length_eq_zero (Nat.eq_zero_of_not_pos anything)
    exact Or.inl ⟨empty, rfl⟩

theorem sends_cons_cases
    {data : List UInt8} {sends : List (List UInt8)}
    {before after : TCPSocket}
    (sent : (data :: sends).foldlM send before = .ok after) :
    ∃ middle,
      before.send data = .ok middle ∧
        sends.foldlM send middle = .ok after := by
  rw [List.foldlM_cons] at sent
  cases first : before.send data with
  | error fault =>
      rw [first] at sent
      cases sent
  | ok middle =>
      rw [first] at sent
      exact ⟨middle, rfl, sent⟩

theorem send_appends
    {before after : TCPSocket} {data : List UInt8}
    (sent : before.send data = .ok after) :
    before.Appends after data := by
  rcases send_cases sent with ⟨rfl, rfl⟩ | ⟨room, rfl⟩
  · exact Appends.refl after
  · exact
      { held := Buffer.cells_write_append
        sendDisconnected := rfl
        fits := fun _ => room }

theorem sends_append
    {sends : List (List UInt8)} {before after : TCPSocket}
    (sent : sends.foldlM send before = .ok after) :
    before.Appends after sends.flatten := by
  induction sends generalizing before with
  | nil =>
      cases sent
      exact Appends.refl after
  | cons data sends inductionHypothesis =>
      obtain ⟨middle, first, later⟩ := sends_cons_cases sent
      exact (send_appends first).trans (inductionHypothesis later)

/-- The bytes that the callback submits. -/
def replies
    (socket : TCPSocket) (ctrl : List UInt8)
    (received : RecvResult) (callback : RecvCallback) : List UInt8 :=
  match socket.reaction ctrl received callback with
  | some reaction => reaction.sends.flatten
  | none => []

theorem receive_appends
    {before after : TCPSocket} {ctrl : List UInt8}
    {received : RecvResult} {callback : RecvCallback}
    (ran : before.receive ctrl received callback = .ok after) :
    before.Appends after (before.replies ctrl received callback) := by
  unfold receive at ran
  unfold replies
  cases received with
  | failed errno =>
      cases ran
      exact Appends.refl before
  | delivered bytes control =>
      cases called : before.reaction ctrl (.delivered bytes control)
          callback with
      | none =>
          rw [called] at ran
          cases ran
          exact Appends.refl before
      | some reaction =>
          rw [called] at ran
          have sent := sends_append ran
          refine ⟨?_, ?_, ?_⟩
          · rw [sent.held]
            cases reaction.takesReceived <;> rfl
          · rw [sent.sendDisconnected]
            cases reaction.takesReceived <;> rfl
          · intro fits
            apply sent.fits
            cases reaction.takesReceived <;> exact fits

end TCPSocket

end LowLatencyBlocks
