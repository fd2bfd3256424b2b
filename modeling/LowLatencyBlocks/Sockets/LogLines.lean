import LowLatencyBlocks.Logger.LogFile
import LowLatencyBlocks.Sockets.TCPSocket

/-!
# The lines that the sockets log

Every call of `log` in the sockets and their program, with its format and its
arguments.  All of them match: none ends the process, whatever its values are.

A `bool` is pushed as an `int`, and a `size_t` as an `unsigned long`.
-/

namespace LowLatencyBlocks

open Library

/-- The bytes of a string literal. -/
def bytesOf (text : String) : List UInt8 :=
  text.toList.map fun letter => letter.toNat.toUInt8

/-- A literal is the string of its letters. -/
theorem bytesOf_ofList (letters : List Char) :
    bytesOf (String.ofList letters) =
      letters.map fun letter => letter.toNat.toUInt8 := by
  rw [bytesOf, String.toList_ofList]

/-- `getCurrentTimeStr(&time_str)`, where `ctime` is what `ctime()` returns. -/
def getCurrentTimeStr (ctime : List UInt8) : List UInt8 :=
  if ctime.isEmpty then
    ctime
  else
    ctime.set (ctime.length - 1) Logger.nul

/-- `__FILE__`, `__LINE__` and `__FUNCTION__` of a call, and what `ctime()`
returned in it. -/
structure Place where
  file : List UInt8
  line : Int32
  function : List UInt8
  ctime : List UInt8
  noNul : Logger.nul ∉ ctime

namespace Place

def time (place : Place) : LogArgument :=
  .string (getCurrentTimeStr place.ctime)

/-- The time is written without the newline that `ctime()` ends it with. -/
theorem argument_time (file : Inserters) (place : Place) :
    file.argument place.time = place.ctime.dropLast.flatMap file.char := by
  have shown :
      (getCurrentTimeStr place.ctime).takeWhile (· ≠ Logger.nul) =
        place.ctime.dropLast := by
    have noNul := place.noNul
    rcases List.eq_nil_or_concat place.ctime with empty | ⟨text, last, ends⟩
    · rw [empty]
      rfl
    · rw [List.concat_eq_append] at ends
      rw [ends] at noNul ⊢
      have overwritten :
          getCurrentTimeStr (text ++ [last]) = text ++ [Logger.nul] := by
        simp [getCurrentTimeStr]
      have kept : ∀ c ∈ text, decide (c ≠ Logger.nul) = true := by
        intro c member
        apply decide_eq_true
        intro isNul
        rw [isNul] at member
        exact noNul (List.mem_append_left _ member)
      rw [overwritten, List.takeWhile_append_of_pos kept,
        List.takeWhile_cons_of_neg (by decide), List.append_nil,
        List.dropLast_concat]
  rw [time, Inserters.argument, shown]

/-- The arguments that most formats begin with. -/
def args (place : Place) : List LogArgument :=
  [.cString place.file, .int place.line, .cString place.function, place.time]

end Place

/-- The calls that `createSocket` reports as failed. -/
inductive FailedCall where
  | getaddrinfo
  | socket
  | setNonBlocking
  | setNoDelay
  | connect
  | setsockopt
  | bind
  | listen
  /-- Also for `setTTL`. -/
  | setMcastTTL
  | setSOTimestamp
  deriving DecidableEq, Repr

def FailedCall.format : FailedCall → String
  | .getaddrinfo => "Get getaddrinfo failed. error:% \n"
  | .socket => "socket() failed. errno:%"
  | .setNonBlocking => "setNonBlocking() failed. errno:%"
  | .setNoDelay => "setNoDelay() failed. errno:%"
  | .connect => "connect() failed. errno:%"
  | .setsockopt => "setsockopt() failed. errno:%"
  | .bind => "bind() failed. errno:%"
  | .listen => "listen() failed. errno:%"
  | .setMcastTTL => "setMcastTTL() failed. errno:%"
  | .setSOTimestamp => "setSOTimestamp() failed. errno:%"

/-- A `bool` argument. -/
def boolArgument (value : Bool) : LogArgument :=
  .int (if value then 1 else 0)

/-- A call of `log`, with the values that its arguments have. -/
inductive LogLine where
  /-- `createSocket` -/
  | creating
      (place : Place) (ip iface : List UInt8) (port : Int32)
      (isUdp isBlocking isListening : Bool) (ttl : Int32)
      (needsSoTimestamp : Bool)
  | failed (call : FailedCall) (strerror : List UInt8)
  /-- `TCPServer::poll` -/
  | haveNewConnections (place : Place)
  | accepted (place : Place) (fd : Int32)
  /-- `TCPSocket::sendAndRecv` -/
  | read
      (place : Place) (fd : Int32) (len : UInt64)
      (userTime kernelTime : Int64)
  | sent (place : Place) (fd : Int32) (len : UInt64)
  /-- The default callbacks of `TCPSocket` and of `TCPServer`. -/
  | defaultRcv (fd : Int32) (len : UInt64) (rxTime : Int64)
  | defaultRecv (place : Place) (fd : Int32) (len : UInt64) (rxTime : Int64)
  | defaultRecvFinished (place : Place)
  /-- The callbacks of `main`. -/
  | serverRecv (fd : Int32) (len : UInt64) (rxTime : Int64)
  | serverRecvFinished
  | clientRecv
      (fd : Int32) (len : UInt64) (rxTime : Int64) (recvMsg : List UInt8)
  /-- `main` -/
  | creatingServer (iface : List UInt8) (port : Int32)
  | connecting
      (client : UInt64) (ip iface : List UInt8) (port : Int32)
  | sending (client : UInt64) (clientMsg : List UInt8)

namespace LogLine

def format : LogLine → String
  | .creating .. =>
      "%:% %() % ip:% iface:% poty:% isUdp:% isBlocking:% isListening:% ttl:% SO_time:%"
  | .failed call _ => call.format
  | .haveNewConnections .. => "%:% %() % have_new_connections\n"
  | .accepted .. => "%:% %() % accepted socket:%\n"
  | .read .. =>
      "%:% %() % read socket:% len:% usrTime:% kernelTime:% diffTime: %\n"
  | .sent .. => "%:% %() % read socket:% len:% \n"
  | .defaultRcv .. =>
      "TCPServer::defaultRecvCallback() socket:% len:% rx:%\n"
  | .defaultRecv .. =>
      "%:% %() % TCPServer::defaultRecvCallback() socket:% len:% rx:%\n"
  | .defaultRecvFinished .. =>
      "%:% %() % TCPServer::defaultRecvFinishedCallback()\n"
  | .serverRecv .. =>
      "TCPServer::defaultRecvCallback() socket:% len:% rx:%\n"
  | .serverRecvFinished => "TCPServer::defaultRecvFinishedCallback()\n"
  | .clientRecv .. =>
      "TCPSocket::defaultRecvCallback() socket:% len:% rx:% msg:%\n"
  | .creatingServer .. => "Creating TCPServer on iface:% port:%\n"
  | .connecting .. =>
      "Connecting TCPClient-[%] on ip:% iface:% port:%\n"
  | .sending .. => "Sending TCPClient-[%] %\n"

def args : LogLine → List LogArgument
  | .creating place ip iface port isUdp isBlocking isListening ttl
      needsSoTimestamp =>
      place.args ++
        [.string ip, .string iface, .int port, boolArgument isUdp,
          boolArgument isBlocking, boolArgument isListening, .int ttl,
          boolArgument needsSoTimestamp]
  | .failed _ strerror => [.cString strerror]
  | .haveNewConnections place => place.args
  | .accepted place fd => place.args ++ [.int fd]
  | .read place fd len userTime kernelTime =>
      place.args ++
        [.int fd, .unsignedLong len, .long userTime, .long kernelTime,
          .long (userTime - kernelTime)]
  | .sent place fd len => place.args ++ [.int fd, .unsignedLong len]
  | .defaultRcv fd len rxTime => [.int fd, .unsignedLong len, .long rxTime]
  | .defaultRecv place fd len rxTime =>
      place.args ++ [.int fd, .unsignedLong len, .long rxTime]
  | .defaultRecvFinished place => place.args
  | .serverRecv fd len rxTime => [.int fd, .unsignedLong len, .long rxTime]
  | .serverRecvFinished => []
  | .clientRecv fd len rxTime recvMsg =>
      [.int fd, .unsignedLong len, .long rxTime, .string recvMsg]
  | .creatingServer iface port => [.string iface, .int port]
  | .connecting client ip iface port =>
      [.unsignedLong client, .string ip, .string iface, .int port]
  | .sending client clientMsg => [.unsignedLong client, .string clientMsg]

theorem noNul (line : LogLine) : Logger.nul ∉ bytesOf line.format := by
  cases line with
  | failed call _ =>
      cases call with
      | _ =>
          simp only [format, FailedCall.format]
          rw [bytesOf_ofList]
          decide
  | _ =>
      simp only [format]
      rw [bytesOf_ofList]
      decide

/-- Every format has as many placeholders as there are arguments. -/
theorem placeholders_format (line : LogLine) :
    Logger.placeholders (Logger.pieces (bytesOf line.format)) =
      line.args.length := by
  cases line with
  | failed call _ =>
      cases call with
      | _ =>
          simp only [format, FailedCall.format]
          rw [bytesOf_ofList]
          exact rfl
  | _ =>
      simp only [format]
      rw [bytesOf_ofList]
      exact rfl

/-- The call of `log`. -/
def call (line : LogLine) : LogCall where
  format := bytesOf line.format
  args := line.args
  noNul := line.noNul

theorem call_matches (line : LogLine) : line.call.Matches :=
  line.placeholders_format

end LogLine

end LowLatencyBlocks
